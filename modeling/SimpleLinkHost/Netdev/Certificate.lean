import SimpleLinkHost.Core.MemoryBlock
import SimpleLinkHost.Core.WhileLoop

/-!
# The root certificate

A certificate comes with its line ends written as `\n`, which are replaced in the buffer from
which it is then loaded.  The replacement looks one character ahead, and its bound is the
length minus two, in 32 bits.
-/

namespace SimpleLinkHost.Certificate

open CallOutcome WhileLoop

section Functions

/-- What stops the function: an access outside of the buffer, or a scan that does not end. -/
inductive Fault
  | outside (index : ℕ)
  | stuck

/-- `_network_tls_certificate`, the variable of the scan and the number of its rounds, and what
has been loaded. -/
structure CertState where
  certificate : List (BitVec 8)
  i : BitVec 32
  iterations : ℕ
  loaded : Option (List (BitVec 8))

abbrev CertM := EStateM Fault CertState

/-- `NETDEVICE_MAX_CERT_LENGTH` -/
def maxCertLength : ℕ := 1800

def backslash : BitVec 8 := 92
def letterN : BitVec 8 := 110
def carriageReturn : BitVec 8 := 13
def lineFeed : BitVec 8 := 10

def readAt (index : BitVec 32) : CertM (BitVec 8) := do
  let c ← get
  match c.certificate[index.toNat]? with
  | some byte => return byte
  | none => throw (.outside index.toNat)

def writeAt (index : BitVec 32) (byte : BitVec 8) : CertM PUnit := do
  let c ← get
  if index.toNat < c.certificate.length then
    modify fun c => { c with certificate := c.certificate.set index.toNat byte }
  else throw (.outside index.toNat)

/-- `strcpy` to the buffer -/
def strcpy (string : List (BitVec 8)) : CertM PUnit := do
  let c ← get
  if string.length + 1 ≤ c.certificate.length then
    modify fun c =>
      { c with certificate := MemoryBlock.write c.certificate 0 (string ++ [0]) }
  else throw (.outside c.certificate.length)

/-- The body of the loop; the second character is read only behind a backslash. -/
def scanRound : CertM PUnit := do
  let c ← get
  let first ← readAt c.i
  runIf (first = backslash) (do
    let second ← readAt (c.i + 1)
    runIf (second = letterN) (do
      writeAt c.i carriageReturn
      writeAt (c.i + 1) lineFeed
      modify fun c => { c with i := c.i + 1 }))
  modify fun c => { c with i := c.i + 1, iterations := c.iterations + 1 }

/-- `network_dev_fix_certificate`; each round reads at a new index, so that no more rounds than
the buffer has bytes come to their end. -/
def networkDevFixCertificate (length : BitVec 32) : CertM PUnit := do
  modify fun c => { c with i := 0 }
  whileLoop .stuck (fun c => c.i < length - 2) scanRound (maxCertLength + 2)

/-- `network_dev_install_certificate`; a string is given without its zero. -/
def networkDevInstallCertificate (loadSecObj : List (BitVec 8) → ℤ)
    (certificate : List (BitVec 8)) : CertM ℤ := do
  let len := BitVec.ofNat 32 certificate.length
  if len < BitVec.ofNat 32 maxCertLength then do
    strcpy certificate
    writeAt (len + 1) 0
    networkDevFixCertificate len
    let c ← get
    let handed := c.certificate.take (len + 1).toNat
    modify fun c => { c with loaded := some handed }
    return loadSecObj handed
  else return -1

/-- The buffer has its size, and any contents from an earlier call. -/
def called (stale : Vector (BitVec 8) (maxCertLength + 1)) : CertState :=
  ⟨stale.toList, 0, 0, none⟩

end Functions

section Property

/-- Every pair of a backslash and an `n` replaced by a line end. -/
def unescape : List (BitVec 8) → List (BitVec 8)
  | first :: second :: rest =>
      if first = backslash ∧ second = letterN then carriageReturn :: lineFeed :: unescape rest
      else first :: unescape (second :: rest)
  | string => string

variable (loadSecObj : List (BitVec 8) → ℤ) (stale : Vector (BitVec 8) (maxCertLength + 1))
variable (certificate : List (BitVec 8))

/-- The string with all its line ends is loaded. -/
def LoadsUnescaped : Prop :=
  Completes (networkDevInstallCertificate loadSecObj certificate) (called stale) fun _ after =>
    after.loaded = some (unescape certificate ++ [0])

/-- No access is outside of the buffer, and the scan takes no more rounds than the string has
characters. -/
def StaysInside : Prop :=
  Completes (networkDevInstallCertificate loadSecObj certificate) (called stale) fun _ after =>
    after.iterations ≤ certificate.length

end Property

section Scan

variable {string before rest tail : List (BitVec 8)} {c : CertState} {round : ℕ}
variable {first second third : BitVec 8}

/-- What the scan makes of a string: it does not look at a pair at the end. -/
def scanned : List (BitVec 8) → List (BitVec 8)
  | first :: second :: third :: rest =>
      if first = backslash ∧ second = letterN then
        carriageReturn :: lineFeed :: scanned (third :: rest)
      else first :: scanned (second :: third :: rest)
  | string => string

theorem scanned_of_pair (hpair : first = backslash ∧ second = letterN) :
    scanned (first :: second :: third :: rest) =
      carriageReturn :: lineFeed :: scanned (third :: rest) := by
  rw [scanned, if_pos hpair]

theorem scanned_of_not_pair (hpair : ¬(first = backslash ∧ second = letterN)) :
    scanned (first :: second :: third :: rest) = first :: scanned (second :: third :: rest) := by
  rw [scanned, if_neg hpair]

theorem scanned_of_short (hshort : string.length ≤ 2) : scanned string = string := by
  match string with
  | [] | [_] | [_, _] => rfl
  | _ :: _ :: _ :: _ => simp at hshort

theorem length_scanned (string : List (BitVec 8)) : (scanned string).length = string.length := by
  induction string using scanned.induct with
  | case1 first second third rest hpair ih =>
      rw [scanned_of_pair hpair]
      simpa using ih
  | case2 first second third rest hpair ih =>
      rw [scanned_of_not_pair hpair]
      simpa using ih
  | case3 string hshort => rw [scanned]; exact hshort

/-- A pair ends a longer string exactly if it ends what is behind the first character. -/
theorem pair_suffix_cons_iff :
    [backslash, letterN] <:+ first :: second :: third :: rest ↔
      [backslash, letterN] <:+ second :: third :: rest := by
  rw [List.suffix_cons_iff]
  simp

/-- The scan misses a pair at the end, and nothing else. -/
theorem scanned_eq_unescape_iff (string : List (BitVec 8)) :
    scanned string = unescape string ↔ ¬[backslash, letterN] <:+ string := by
  induction string using scanned.induct with
  | case1 first second third rest hpair ih =>
      have hbehind : [backslash, letterN] <:+ second :: third :: rest ↔
          [backslash, letterN] <:+ third :: rest := by
        rw [List.suffix_cons_iff, hpair.2]
        simp [backslash, letterN]
      rw [scanned_of_pair hpair, unescape, if_pos hpair, pair_suffix_cons_iff, hbehind, ← ih]
      simp
  | case2 first second third rest hpair ih =>
      rw [scanned_of_not_pair hpair, unescape, if_neg hpair, pair_suffix_cons_iff, ← ih]
      simp
  | case3 string hshort =>
      match string with
      | [] => simp [scanned, unescape]
      | [first] => simp [scanned, unescape, List.suffix_cons_iff]
      | [first, second] =>
          by_cases hpair : first = backslash ∧ second = letterN
          · simp [scanned, unescape, hpair, backslash, carriageReturn]
          · have hother : ¬(backslash = first ∧ letterN = second) :=
              fun hsame => hpair ⟨hsame.1.symm, hsame.2.symm⟩
            simp [scanned, unescape, hpair, hother, List.suffix_cons_iff]
      | first :: second :: third :: rest => exact absurd rfl (hshort first second third rest)

/-- What the scan has done to a buffer whose string it has gone through in part. -/
structure Scanning (string before rest tail : List (BitVec 8)) (round : ℕ) (c : CertState) :
    Prop where
  certificate : c.certificate = before ++ rest ++ 0 :: tail
  i : c.i.toNat = before.length
  length : before.length + rest.length = string.length
  scanned : before ++ scanned rest = scanned string
  iterations : c.iterations = round
  progress : round ≤ before.length

theorem ends_readAt {index : BitVec 32} {byte : BitVec 8} {falls : BitVec 8 → CertState → Prop}
    {returns : Fault → CertState → Prop} (hbyte : c.certificate[index.toNat]? = some byte) :
    Ends (readAt index) c falls returns ↔ falls byte c := by
  rw [readAt, ends_bind, ends_get, hbyte]
  exact ends_pure

theorem ends_writeAt {index : BitVec 32} {byte : BitVec 8} {falls : PUnit → CertState → Prop}
    {returns : Fault → CertState → Prop} (hinside : index.toNat < c.certificate.length) :
    Ends (writeAt index byte) c falls returns ↔
      falls ⟨⟩ { c with certificate := c.certificate.set index.toNat byte } := by
  rw [writeAt, ends_bind, ends_get, if_pos hinside, ends_modify]

theorem toNat_add_one {index : BitVec 32} (hsmall : index.toNat < maxCertLength + 2) :
    (index + 1).toNat = index.toNat + 1 := by
  rw [maxCertLength] at hsmall
  calc (index + 1).toNat = (index.toNat + 1) % 2 ^ 32 := BitVec.toNat_add _ _
    _ = index.toNat + 1 := Nat.mod_eq_of_lt (by omega)

/-- A character that begins no pair stays. -/
theorem Scanning.keep
    (hscanning : Scanning string before (first :: second :: third :: rest) tail round c)
    (hstring : string.length < maxCertLength) (hpair : ¬(first = backslash ∧ second = letterN)) :
    Scanning string (before ++ [first]) (second :: third :: rest) tail (round + 1)
      { c with i := c.i + 1, iterations := c.iterations + 1 } := by
  have hlength := hscanning.length
  have hi := hscanning.i
  have hprogress := hscanning.progress
  have hscanned := hscanning.scanned
  rw [scanned_of_not_pair hpair] at hscanned
  simp only [List.length_cons] at hlength
  constructor
  · simp [hscanning.certificate]
  · rw [toNat_add_one (by omega), hi]
    simp
  · simp
    omega
  · simpa using hscanned
  · exact congrArg (· + 1) hscanning.iterations
  · simp
    omega

/-- A pair becomes a line end. -/
theorem Scanning.replace
    (hscanning : Scanning string before (first :: second :: third :: rest) tail round c)
    (hstring : string.length < maxCertLength) (hpair : first = backslash ∧ second = letterN) :
    Scanning string (before ++ [carriageReturn, lineFeed]) (third :: rest) tail (round + 1)
      { c with
        certificate := (c.certificate.set c.i.toNat carriageReturn).set (c.i + 1).toNat lineFeed
        i := c.i + 1 + 1
        iterations := c.iterations + 1 } := by
  have hlength := hscanning.length
  have hi := hscanning.i
  have hprogress := hscanning.progress
  have hscanned := hscanning.scanned
  rw [scanned_of_pair hpair] at hscanned
  simp only [List.length_cons] at hlength
  have hnext : (c.i + 1).toNat = c.i.toNat + 1 := toNat_add_one (by omega)
  constructor
  · rw [hnext, hi, hscanning.certificate]
    simp
  · rw [toNat_add_one (by omega), hnext, hi]
    simp
  · simp
    omega
  · simpa using hscanned
  · exact congrArg (· + 1) hscanning.iterations
  · simp
    omega

/-- A round with two characters behind the one it looks at goes through, and takes the string
one character or one line end further. -/
theorem scanning_round
    (hscanning : Scanning string before (first :: second :: third :: rest) tail round c)
    (hstring : string.length < maxCertLength) :
    Completes scanRound c fun _ after => ∃ before rest,
      Scanning string before rest tail (round + 1) after := by
  have hlength := hscanning.length
  have hi := hscanning.i
  simp only [List.length_cons] at hlength
  have hnext : (c.i + 1).toNat = c.i.toNat + 1 := toNat_add_one (by omega)
  have hfirst : c.certificate[c.i.toNat]? = some first := by
    rw [hscanning.certificate, hi]
    simp
  have hsecond : c.certificate[(c.i + 1).toNat]? = some second := by
    rw [hscanning.certificate, hnext, hi]
    simp
  rw [Completes, scanRound, ends_bind, ends_get, ends_bind, ends_readAt hfirst, ends_bind,
    ends_runIf]
  split
  · rename_i hbackslash
    rw [ends_bind, ends_readAt hsecond, ends_runIf]
    split
    · rename_i hletter
      have hinside : c.i.toNat < c.certificate.length := (List.getElem?_eq_some_iff.mp hfirst).1
      have hinside' : (c.i + 1).toNat < (c.certificate.set c.i.toNat carriageReturn).length := by
        rw [List.length_set]
        exact (List.getElem?_eq_some_iff.mp hsecond).1
      rw [ends_bind, ends_writeAt hinside, ends_bind, ends_writeAt hinside', ends_modify,
        ends_modify]
      exact ⟨_, _, hscanning.replace hstring ⟨hbackslash, hletter⟩⟩
    · rename_i hletter
      rw [ends_modify]
      exact ⟨_, _, hscanning.keep hstring fun hpair => hletter hpair.2⟩
  · rename_i hbackslash
    rw [ends_modify]
    exact ⟨_, _, hscanning.keep hstring fun hpair => hbackslash hpair.1⟩

theorem toNat_bound {n : ℕ} (hlong : 2 ≤ n) (hshort : n < maxCertLength) :
    (BitVec.ofNat 32 n - 2).toNat = n - 2 := by
  rw [maxCertLength] at hshort
  rw [BitVec.toNat_sub_of_le]
  · simp
    omega
  · rw [BitVec.le_def]
    simp
    omega

/-- The scan of a string of two characters or more. -/
theorem completes_networkDevFixCertificate (hlong : 2 ≤ string.length)
    (hshort : string.length < maxCertLength) (hcertificate : c.certificate = string ++ 0 :: tail)
    (hiterations : c.iterations = 0) :
    Completes (networkDevFixCertificate (BitVec.ofNat 32 string.length)) c fun _ after =>
      after.certificate = scanned string ++ 0 :: tail ∧ after.iterations ≤ string.length := by
  have hbound := toNat_bound hlong hshort
  have hbody : ∀ round state, (∃ before rest, Scanning string before rest tail round state) →
      decide (state.i < BitVec.ofNat 32 string.length - 2) = true →
        Ends scanRound state (fun _ after => ∃ before rest,
          Scanning string before rest tail (round + 1) after) fun _ _ => False := by
    rintro round state ⟨before, rest, hscanning⟩ hcond
    rw [decide_eq_true_eq, BitVec.lt_def, hbound, hscanning.i] at hcond
    have hlength := hscanning.length
    match rest with
    | first :: second :: third :: rest => exact scanning_round hscanning hshort
    | [] | [_] | [_, _] =>
        simp only [List.length_cons, List.length_nil] at hlength
        omega
  have hstart : Scanning string [] string tail 0 { c with i := 0 } :=
    ⟨hcertificate, rfl, Nat.zero_add _, rfl, hiterations, Nat.le_refl 0⟩
  rw [Completes, networkDevFixCertificate, ends_bind, ends_modify]
  apply (ends_whileLoop hbody ⟨[], string, hstart⟩ _).mono
  · rintro _ after ⟨last, -, ⟨before, rest, hscanning⟩, hcond⟩
    rw [decide_eq_false_iff_not, BitVec.lt_def, hbound, hscanning.i] at hcond
    have hlength := hscanning.length
    have hscanned := hscanning.scanned
    rw [scanned_of_short (by omega)] at hscanned
    constructor
    · rw [← hscanned]
      exact hscanning.certificate
    · rw [hscanning.iterations]
      have hprogress := hscanning.progress
      omega
  · rintro _ after (hfalse | ⟨-, ⟨before, rest, hscanning⟩, -⟩)
    · exact hfalse
    · have hlength := hscanning.length
      have hprogress := hscanning.progress
      omega

theorem ends_readAt_outside {index : BitVec 32} {falls : BitVec 8 → CertState → Prop}
    {returns : Fault → CertState → Prop} (houtside : c.certificate.length ≤ index.toNat) :
    Ends (readAt index) c falls returns ↔ returns (.outside index.toNat) c := by
  rw [readAt, ends_bind, ends_get, List.getElem?_eq_none houtside]
  exact ends_throw

/-- A scan that only the end of the buffer stops. -/
structure Wandering (round : ℕ) (c : CertState) : Prop where
  size : c.certificate.length = maxCertLength + 1
  progress : round ≤ c.i.toNat
  inside : c.i.toNat ≤ maxCertLength + 1

theorem Wandering.next {after : CertState} (hwandering : Wandering round c)
    (hsize : after.certificate.length = c.certificate.length)
    (hgrows : c.i.toNat < after.i.toNat) (hinside : after.i.toNat ≤ c.certificate.length) :
    Wandering (round + 1) after := by
  have hprogress := hwandering.progress
  have hsame := hwandering.size
  exact ⟨by omega, by omega, by omega⟩

/-- A round of such a scan goes on behind the index it looks at, or leaves the buffer. -/
theorem wandering_round (hwandering : Wandering round c) :
    Ends scanRound c (fun _ after => Wandering (round + 1) after)
      fun fault _ => fault ≠ .stuck := by
  have hnext : (c.i + 1).toNat = c.i.toNat + 1 :=
    toNat_add_one (Nat.lt_succ_of_le hwandering.inside)
  rw [scanRound, ends_bind, ends_get, ends_bind]
  by_cases hinside : c.i.toNat < c.certificate.length
  · have hone {after : CertState} (hsize : after.certificate.length = c.certificate.length)
        (hi : after.i = c.i + 1) : Wandering (round + 1) after :=
      hwandering.next hsize (by rw [hi]; omega) (by rw [hi]; omega)
    rw [ends_readAt (List.getElem?_eq_getElem hinside), ends_bind, ends_runIf]
    split
    · rw [ends_bind]
      by_cases hinside' : (c.i + 1).toNat < c.certificate.length
      · rw [ends_readAt (List.getElem?_eq_getElem hinside'), ends_runIf]
        split
        · have hset : (c.i + 1).toNat < (c.certificate.set c.i.toNat carriageReturn).length := by
            rw [List.length_set]
            exact hinside'
          have hbehind : (c.i + 1 + 1).toNat = (c.i + 1).toNat + 1 := by
            apply toNat_add_one
            rw [hwandering.size] at hinside'
            omega
          rw [ends_bind, ends_writeAt hinside, ends_bind, ends_writeAt hset, ends_modify,
            ends_modify]
          refine hwandering.next ?_ ?_ ?_
          · simp only [List.length_set]
          · simp only
            omega
          · simp only
            omega
        · rw [ends_modify]
          exact hone rfl rfl
      · rw [ends_readAt_outside (Nat.le_of_not_lt hinside')]
        rintro ⟨⟩
    · rw [ends_modify]
      exact hone rfl rfl
  · rw [ends_readAt_outside (Nat.le_of_not_lt hinside)]
    rintro ⟨⟩

/-- The bound of a shorter string lies behind the buffer. -/
theorem lt_toNat_bound {n : ℕ} (hshort : n < 2) :
    maxCertLength + 1 < (BitVec.ofNat 32 n - 2).toNat := by
  match n with
  | 0 | 1 => decide
  | n + 2 => omega

/-- The scan of a shorter string leaves the buffer. -/
theorem networkDevFixCertificate_outside {n : ℕ} (hshort : n < 2)
    (hsize : c.certificate.length = maxCertLength + 1) :
    Ends (networkDevFixCertificate (BitVec.ofNat 32 n)) c (fun _ _ => False)
      fun fault _ => fault ≠ .stuck := by
  have hbound := lt_toNat_bound hshort
  have hstart : Wandering 0 { c with i := 0 } := ⟨hsize, Nat.zero_le _, Nat.zero_le _⟩
  rw [networkDevFixCertificate, ends_bind, ends_modify]
  apply (ends_whileLoop (fun _ _ hwandering _ => wandering_round hwandering) hstart _).mono
  · rintro _ after ⟨last, -, hwandering, hcond⟩
    rw [decide_eq_false_iff_not, BitVec.lt_def] at hcond
    have hinside := hwandering.inside
    omega
  · rintro _ after (hfault | ⟨-, hwandering, -⟩)
    · exact hfault
    · have hprogress := hwandering.progress
      have hinside := hwandering.inside
      omega

end Scan

section Install

variable {loadSecObj : List (BitVec 8) → ℤ} {stale : Vector (BitVec 8) (maxCertLength + 1)}
variable {certificate : List (BitVec 8)}

/-- The buffer with the string, in front of the scan. -/
def copied (stale : Vector (BitVec 8) (maxCertLength + 1)) (certificate : List (BitVec 8)) :
    CertState :=
  { called stale with
    certificate := certificate ++ 0 :: (stale.toList.drop (certificate.length + 1)).set 0 0 }

theorem length_copied (stale : Vector (BitVec 8) (maxCertLength + 1))
    (hlength : certificate.length < maxCertLength) :
    (copied stale certificate).certificate.length = maxCertLength + 1 := by
  simp [copied]
  omega

theorem toNat_length (hlength : certificate.length < maxCertLength) :
    (BitVec.ofNat 32 certificate.length).toNat = certificate.length := by
  rw [maxCertLength] at hlength
  rw [BitVec.toNat_ofNat]
  omega

theorem set_write :
    (MemoryBlock.write stale.toList 0 (certificate ++ [0])).set (certificate.length + 1) 0 =
      (copied stale certificate).certificate := by
  simp [MemoryBlock.write, copied]

theorem ends_networkDevInstallCertificate {falls : ℤ → CertState → Prop}
    {returns : Fault → CertState → Prop} (hlength : certificate.length < maxCertLength) :
    Ends (networkDevInstallCertificate loadSecObj certificate) (called stale) falls returns ↔
      Ends (networkDevFixCertificate (BitVec.ofNat 32 certificate.length))
        (copied stale certificate)
        (fun _ after => falls (loadSecObj (after.certificate.take (certificate.length + 1)))
          { after with loaded := some (after.certificate.take (certificate.length + 1)) })
        returns := by
  have htoNat := toNat_length hlength
  have hnext : (BitVec.ofNat 32 certificate.length + 1).toNat = certificate.length + 1 := by
    rw [toNat_add_one (by omega), htoNat]
  have haccepted : BitVec.ofNat 32 certificate.length < BitVec.ofNat 32 maxCertLength := by
    rw [BitVec.lt_def, htoNat]
    exact hlength
  have hfits : certificate.length + 1 ≤ (called stale).certificate.length := by
    simp [called]
    omega
  have hinside : (BitVec.ofNat 32 certificate.length + 1).toNat <
      (MemoryBlock.write stale.toList 0 (certificate ++ [0])).length := by
    rw [MemoryBlock.length_write (by simp; omega), hnext]
    simp
    omega
  rw [networkDevInstallCertificate, if_pos haccepted, ends_bind, strcpy, ends_bind, ends_get,
    if_pos hfits, ends_modify, ends_bind, called, ends_writeAt hinside, hnext, set_write,
    ends_bind]
  rfl

/-- What becomes of a string of two characters or more. -/
theorem completes_networkDevInstallCertificate (hlong : 2 ≤ certificate.length)
    (hlength : certificate.length < maxCertLength) :
    Completes (networkDevInstallCertificate loadSecObj certificate) (called stale) fun _ after =>
      after.loaded = some (scanned certificate ++ [0]) ∧
        after.iterations ≤ certificate.length := by
  rw [Completes, ends_networkDevInstallCertificate hlength]
  apply (completes_networkDevFixCertificate hlong hlength rfl rfl).mono
  rintro _ after ⟨hcertificate, hiterations⟩
  refine ⟨?_, hiterations⟩
  have hsame := length_scanned certificate
  rw [hcertificate, ← hsame]
  simp [List.take_append]

theorem loadsUnescaped_iff_scanned (hlong : 2 ≤ certificate.length)
    (hlength : certificate.length < maxCertLength) :
    LoadsUnescaped loadSecObj stale certificate ↔ scanned certificate = unescape certificate := by
  have hcompletes : Completes (networkDevInstallCertificate loadSecObj certificate)
      (called stale) _ := completes_networkDevInstallCertificate hlong hlength
  constructor
  · intro hloads
    apply (Ends.and hloads hcompletes).elim
    · rintro _ after ⟨hloaded, hscanned, -⟩
      rw [hscanned, Option.some.injEq, List.append_cancel_right_eq] at hloaded
      exact hloaded
    · exact fun _ _ hfalse => hfalse.1.elim
  · intro hsame
    apply hcompletes.mono
    rintro _ after ⟨hscanned, -⟩
    rw [hscanned, hsame]

/-- A shorter string has the scan leave the buffer. -/
theorem not_staysInside_of_short (hshort : certificate.length < 2) :
    ¬StaysInside loadSecObj stale certificate := by
  intro hinside
  have hlength : certificate.length < maxCertLength := Nat.lt_of_lt_of_le hshort (by decide)
  have houtside := networkDevFixCertificate_outside hshort (length_copied stale hlength)
  rw [StaysInside, Completes, ends_networkDevInstallCertificate hlength] at hinside
  apply (Ends.and hinside houtside).elim
  · exact fun _ _ hfalse => hfalse.2
  · exact fun _ _ hfalse => hfalse.1

/-- The string is loaded with all its line ends exactly if it does not end in one that is
written as a pair. -/
theorem loadsUnescaped_iff (hlong : 2 ≤ certificate.length)
    (hlength : certificate.length < maxCertLength) :
    LoadsUnescaped loadSecObj stale certificate ↔ ¬[backslash, letterN] <:+ certificate := by
  rw [loadsUnescaped_iff_scanned hlong hlength, scanned_eq_unescape_iff]

/-- A certificate whose last line ends with a pair. -/
theorem loadsUnescaped_broken :
    ¬LoadsUnescaped (fun _ => 0) (Vector.replicate _ 0) [65, backslash, letterN] := by
  rw [loadsUnescaped_iff_scanned (by decide) (by decide)]
  decide

theorem loadsUnescaped_iff_inner :
    LoadsUnescaped (fun _ => 0) (Vector.replicate _ 0) [65, backslash, letterN, 66] ↔
      ¬[backslash, letterN] <:+ [65, backslash, letterN, 66] :=
  loadsUnescaped_iff (by decide) (by decide)

/-- The function stays inside of the buffer exactly for the strings of two characters or
more. -/
theorem staysInside_iff (hlength : certificate.length < maxCertLength) :
    StaysInside loadSecObj stale certificate ↔ 2 ≤ certificate.length := by
  constructor
  · intro hinside
    by_contra hshort
    exact not_staysInside_of_short (Nat.lt_of_not_le hshort) hinside
  · intro hlong
    exact (completes_networkDevInstallCertificate hlong hlength).mono fun _ _ hafter => hafter.2

theorem staysInside_broken : ¬StaysInside (fun _ => 0) (Vector.replicate _ 0) [] :=
  not_staysInside_of_short (by decide)

theorem staysInside_iff_three :
    StaysInside (fun _ => 0) (Vector.replicate _ 0) [65, 66, 67] ↔ 2 ≤ 3 :=
  staysInside_iff (by decide)

end Install

end SimpleLinkHost.Certificate
