import SimpleLinkHost.Driver.RxHdr

/-!
# What the search for a header finds

The loops of `_SlDrvRxHdrRead` walk over the words of the stream.  Where a walk ends follows
from the stream, from the polls that tell of an expired timeout, and from how far the interface
delivers; `Reaches` says which occurrence of the sync pattern the function gets to.
-/

namespace SimpleLinkHost.RxHdr

open CallOutcome WhileLoop
open Calls (Byte FatalError RetCode)

variable (cfg : SyncConfig) (env : HdrEnv) (txSeqNum : Byte)

section Input

/-- The four bytes of the stream from a position on match the sync pattern. -/
def PatternAt (position : ℕ) : Prop :=
  syncPatternMatch cfg (word env.stream position) txSeqNum = true

/-- The words of the stream repeat up to the one with this number, which the next does not
repeat. -/
def EndsRepeats (base : ℕ) : Prop :=
  (∀ index < base, word env.stream (4 * index) = word env.stream (4 * (index + 1))) ∧
    word env.stream (4 * base) ≠ word env.stream (4 * (base + 1))

/-- How often the timeout is polled before the pass that finds the pattern at a position. -/
def pollsBefore (base position : ℕ) : ℕ := max base ((position - 1) / 4)

/-- The function gets to the pass that finds the pattern at a position: it is the first behind
the words that repeat, no poll but the last one before that pass tells of an expired timeout,
and the interface delivers the bytes of that pass. -/
structure Reaches (base position : ℕ) : Prop where
  written : env.cnysWritten = true
  repeats : EndsRepeats env base
  behind : 4 * base ≤ position
  pattern : PatternAt cfg env txSeqNum position
  first : ∀ earlier < position, 4 * base ≤ earlier → ¬PatternAt cfg env txSeqNum earlier
  inTime : ∀ poll, poll < base ∨ poll + 1 < pollsBefore base position →
    env.expired poll = false
  delivered : delivers env (4 * (pollsBefore base position + 2)) = true

/-- The pattern is found in the pass behind the first expired poll. -/
def Late (base position : ℕ) : Prop :=
  base < pollsBefore base position ∧ env.expired (pollsBefore base position - 1) = true

/-- The next words are copies of the sync pattern. -/
def Copies (position copies : ℕ) : Prop :=
  ∀ copy < copies, PatternAt cfg env txSeqNum (position + 4 + 4 * copy)

/-- The interface does not deliver the bytes up to the end of the header. -/
def FallsShort (position : ℕ) : Prop :=
  ∃ copies, Copies cfg env txSeqNum position copies ∧
    (delivers env (position + 8 + 4 * copies) = false ∨
      ¬PatternAt cfg env txSeqNum (position + 4 + 4 * copies) ∧
        delivers env (position + 16 + 4 * copies) = false)

variable {cfg env txSeqNum}

theorem delivers_of_le {count more : ℕ} (hmore : delivers env more = true) (hle : count ≤ more) :
    delivers env count = true := by
  rw [delivers] at hmore ⊢
  cases hdelivered : env.delivered with
  | none => rfl
  | some delivered =>
      rw [hdelivered, Option.all_some, decide_eq_true_eq] at hmore
      rw [Option.all_some, decide_eq_true_eq]
      exact hle.trans hmore

/-- Words that repeat lie before the end of the repeats. -/
theorem EndsRepeats.lt {base index : ℕ} (hbase : EndsRepeats env base)
    (hrepeats : ∀ earlier ≤ index,
      word env.stream (4 * earlier) = word env.stream (4 * (earlier + 1))) : index < base := by
  by_contra hle
  exact hbase.2 (hrepeats base (Nat.le_of_not_lt hle))

theorem EndsRepeats.unique {base other : ℕ} (hbase : EndsRepeats env base)
    (hother : EndsRepeats env other) : base = other := by
  rcases Nat.lt_trichotomy base other with hlt | heq | hgt
  · exact absurd (hother.1 base hlt) hbase.2
  · exact heq
  · exact absurd (hbase.1 other hgt) hother.2

theorem Reaches.unique {base position base' position' : ℕ}
    (hreaches : Reaches cfg env txSeqNum base position)
    (hother : Reaches cfg env txSeqNum base' position') :
    base = base' ∧ position = position' := by
  have hbase := hreaches.repeats.unique hother.repeats
  subst hbase
  refine ⟨rfl, ?_⟩
  rcases Nat.lt_trichotomy position position' with hlt | heq | hgt
  · exact absurd hreaches.pattern (hother.first position hlt hreaches.behind)
  · exact heq
  · exact absurd hother.pattern (hreaches.first position' hgt hother.behind)

/-- The pass that finds a pattern, by the shift at which it finds it. -/
theorem pollsBefore_eq {base pass shift : ℕ} (hshift : shift ≤ 4)
    (hfirst : 0 < pass → 0 < shift) :
    pollsBefore base (4 * (base + pass) + shift) = base + pass := by
  rw [pollsBefore]
  omega

theorem lt_pollsBefore {base pass position : ℕ}
    (hposition : 4 * (base + pass) + 4 < position) : base + pass < pollsBefore base position := by
  rw [pollsBefore]
  omega

/-- A pattern that no pass so far has found lies behind the windows of these passes. -/
theorem Reaches.behind_passes {base position passes : ℕ}
    (hreaches : Reaches cfg env txSeqNum base position)
    (hunmatched : ∀ pass < passes, ∀ shift ≤ 4,
      ¬PatternAt cfg env txSeqNum (4 * (base + pass) + shift)) (hpasses : 0 < passes) :
    4 * (base + (passes - 1)) + 4 < position := by
  by_contra hle
  have hbehind := hreaches.behind
  have hpass : (position - 4 * base) / 4 < passes ∨ position = 4 * (base + (passes - 1)) + 4 := by
    omega
  cases hpass with
  | inl hlt =>
      apply hunmatched _ hlt ((position - 4 * base) % 4) (by omega)
      have hsum : 4 * (base + (position - 4 * base) / 4) + (position - 4 * base) % 4 =
          position := by omega
      rw [hsum]
      exact hreaches.pattern
  | inr heq =>
      apply hunmatched (passes - 1) (by omega) 4 (Nat.le_refl 4)
      rw [← heq]
      exact hreaches.pattern

end Input

section Memory

variable {cfg env txSeqNum} {s : HdrState}

theorem word_congr {buffer other : ℕ → Byte} {offset offset' : ℕ}
    (hbytes : ∀ index < 4, buffer (offset + index) = other (offset' + index)) :
    word buffer offset = word other offset' := by
  have hzero := hbytes 0 (by decide)
  rw [Nat.add_zero, Nat.add_zero] at hzero
  rw [word, word, hzero, hbytes 1 (by decide), hbytes 2 (by decide), hbytes 3 (by decide)]

theorem eq_of_word_eq {buffer other : ℕ → Byte} {offset offset' : ℕ}
    (hword : word buffer offset = word other offset') :
    ∀ index < 4, buffer (offset + index) = other (offset' + index) := by
  have hnat := congrArg BitVec.toNat hword
  simp only [word, BitVec.toNat_ofNat] at hnat
  have hbyte (byte : Byte) : byte.toNat < 256 := byte.isLt
  have h0 := hbyte (buffer offset)
  have h1 := hbyte (buffer (offset + 1))
  have h2 := hbyte (buffer (offset + 2))
  have h3 := hbyte (buffer (offset + 3))
  have h0' := hbyte (other offset')
  have h1' := hbyte (other (offset' + 1))
  have h2' := hbyte (other (offset' + 2))
  have h3' := hbyte (other (offset' + 3))
  intro index hindex
  apply BitVec.eq_of_toNat_eq
  have hcases : index = 0 ∨ index = 1 ∨ index = 2 ∨ index = 3 := by omega
  rcases hcases with rfl | rfl | rfl | rfl
  · rw [Nat.add_zero, Nat.add_zero]
    omega
  · omega
  · omega
  · omega

/-- A read that is delivered. -/
theorem ends_nwpIfReadCheck {offset count : ℕ} {falls : PUnit → HdrState → Prop}
    {returns : RetCode → HdrState → Prop} :
    Ends (nwpIfReadCheck env offset count) s falls returns ↔
      if delivers env (s.taken + count) then
        falls ⟨⟩ { s with
          pBuf := overwrite s.pBuf offset count fun index => env.stream (s.taken + index)
          taken := s.taken + count }
      else returns .apiAborted
        { s with fatalErrors := s.fatalErrors ++ [FatalError.driverAbort] } := by
  rw [nwpIfReadCheck, ends_bind, ends_get, ends_ite]
  split <;> rfl

theorem ends_isTimeoutExpired {falls : Bool → HdrState → Prop}
    {returns : RetCode → HdrState → Prop} :
    Ends (isTimeoutExpired env) s falls returns ↔
      falls (env.expired s.polls) { s with polls := s.polls + 1 } := Iff.rfl

/-- The buffer holds the eight bytes of the stream from a word on, the last ones taken. -/
structure Window (env : HdrEnv) (index : ℕ) (s : HdrState) : Prop where
  taken : s.taken = 4 * (index + 2)
  bytes : ∀ offset < 8, s.pBuf offset = env.stream (4 * index + offset)
  delivered : delivers env s.taken = true

/-- The buffer begins with the word of the stream behind a pattern, the last one taken. -/
structure Behind (env : HdrEnv) (position : ℕ) (s : HdrState) : Prop where
  taken : s.taken = position + 8
  bytes : ∀ offset < 4, s.pBuf offset = env.stream (position + 4 + offset)
  delivered : delivers env s.taken = true

theorem Window.word_eq {index : ℕ} (hwindow : Window env index s) (offset : ℕ)
    (hoffset : offset ≤ 4) :
    word s.pBuf offset = word env.stream (4 * index + offset) := by
  apply word_congr
  intro byte hbyte
  rw [hwindow.bytes _ (by omega), Nat.add_assoc]

theorem Behind.word_eq {position : ℕ} (hbehind : Behind env position s) :
    word s.pBuf 0 = word env.stream (position + 4) := by
  apply word_congr
  intro byte hbyte
  rw [Nat.zero_add]
  exact hbehind.bytes byte hbyte

/-- The second word of the buffer is the next one of the stream. -/
theorem window_of_read {index : ℕ} {next : HdrState} (htaken : s.taken = 4 * (index + 2))
    (hlow : ∀ offset < 4, s.pBuf offset = env.stream (4 * (index + 1) + offset))
    (hdelivers : delivers env (s.taken + 4) = true)
    (hpBuf : next.pBuf =
      overwrite s.pBuf syncPatternLen 4 fun byte => env.stream (s.taken + byte))
    (hnext : next.taken = s.taken + 4) : Window env (index + 1) next := by
  refine ⟨by omega, fun offset hoffset => ?_, hnext ▸ hdelivers⟩
  rw [hpBuf, overwrite, syncPatternLen]
  split
  · congr 1
    omega
  · exact hlow offset (by omega)

end Memory

section Repeats

variable {cfg env txSeqNum} {s : HdrState}

/-- The words that were compared are no sync patterns. -/
def NoneMatched (cfg : SyncConfig) (txSeqNum : Byte) (s : HdrState) : Prop :=
  ∀ window ∈ s.examined, syncPatternMatch cfg window txSeqNum = false

def SomeMatched (cfg : SyncConfig) (txSeqNum : Byte) (s : HdrState) : Prop :=
  ∃ window ∈ s.examined, syncPatternMatch cfg window txSeqNum = true

theorem NoneMatched.concat {s after : HdrState} {window : BitVec 32}
    (hnone : NoneMatched cfg txSeqNum s) (hwindow : syncPatternMatch cfg window txSeqNum ≠ true)
    (hafter : after.examined = s.examined ++ [window]) : NoneMatched cfg txSeqNum after := by
  intro other hother
  rw [hafter, List.mem_append, List.mem_singleton] at hother
  cases hother with
  | inl hearlier => exact hnone other hearlier
  | inr hlast =>
      rw [hlast]
      exact Bool.eq_false_iff.mpr hwindow

/-- The function returned before it has seen a pattern, and it does not reach one. -/
def NothingFound (cfg : SyncConfig) (env : HdrEnv) (txSeqNum : Byte) (after : HdrState) : Prop :=
  NoneMatched cfg txSeqNum after ∧
    ∀ base position, ¬Reaches cfg env txSeqNum base position

/-- So many words were skipped because they repeat. -/
structure Repeated (env : HdrEnv) (txSeqNum : Byte) (words : ℕ) (s : HdrState) : Prop where
  window : Window env words s
  equal : ∀ index < words, word env.stream (4 * index) = word env.stream (4 * (index + 1))
  polls : s.polls = words
  inTime : ∀ poll < words, env.expired poll = false
  txSeqNum_eq : s.txSeqNum = txSeqNum
  searchSync : s.searchSync = true
  timeoutState : s.timeoutState = .initVal
  examined : s.examined = []

theorem Repeated.repeats_iff {words : ℕ} (hrepeated : Repeated env txSeqNum words s) :
    repeats s = true ↔ word env.stream (4 * words) = word env.stream (4 * (words + 1)) := by
  have hlow := hrepeated.window.word_eq 0 (by decide)
  have hhigh := hrepeated.window.word_eq 4 (by decide)
  rw [Nat.add_zero] at hlow
  rw [repeats, decide_eq_true_eq, hlow, hhigh, Nat.mul_add]

theorem Repeated.endsRepeats {words : ℕ} (hrepeated : Repeated env txSeqNum words s)
    (hends : repeats s = false) : EndsRepeats env words := by
  refine ⟨hrepeated.equal, fun hequal => ?_⟩
  rw [hrepeated.repeats_iff.mpr hequal] at hends
  cases hends

theorem Repeated.le_pollsBefore {words base position : ℕ}
    (hrepeated : Repeated env txSeqNum words s)
    (hreaches : Reaches cfg env txSeqNum base position) : words ≤ pollsBefore base position := by
  have hle : words ≤ base := by
    by_contra hlt
    exact hreaches.repeats.2 (hrepeated.equal base (Nat.lt_of_not_le hlt))
  exact hle.trans (Nat.le_max_left _ _)

theorem Repeated.nothingFound {words : ℕ} (hrepeated : Repeated env txSeqNum words s)
    (hrepeats : repeats s = true)
    (hfails : delivers env (4 * (words + 3)) = false ∨ env.expired words = true)
    {after : HdrState} (hafter : after.examined = s.examined) :
    NothingFound cfg env txSeqNum after := by
  constructor
  · rw [NoneMatched, hafter, hrepeated.examined]
    exact fun _ hwindow => absurd hwindow List.not_mem_nil
  · intro base position hreaches
    have hlt : words < base := by
      apply hreaches.repeats.lt
      intro earlier hearlier
      rcases Nat.lt_or_eq_of_le hearlier with hlt | heq
      · exact hrepeated.equal earlier hlt
      · exact heq ▸ hrepeated.repeats_iff.mp hrepeats
    cases hfails with
    | inl hshort =>
        have hle : base ≤ pollsBefore base position := Nat.le_max_left _ _
        have hmore := delivers_of_le hreaches.delivered (by omega : 4 * (words + 3) ≤ _)
        rw [hshort] at hmore
        cases hmore
    | inr hexpired =>
        have hnot := hreaches.inTime words (Or.inl hlt)
        rw [hexpired] at hnot
        cases hnot

/-- One more word is read over the second one. -/
theorem ends_readRepeated {words : ℕ} (hrepeated : Repeated env txSeqNum words s)
    (hrepeats : repeats s = true) :
    Ends (readRepeated env) s (fun _ after => Repeated env txSeqNum (words + 1) after)
      fun ret after => ret = .apiAborted ∧ NothingFound cfg env txSeqNum after := by
  have htaken : s.taken + 4 = 4 * (words + 3) := by
    rw [hrepeated.window.taken]
    omega
  rw [readRepeated, ends_bind, ends_nwpIfReadCheck]
  split
  · rename_i hdelivers
    rw [ends_bind, ends_isTimeoutExpired, ends_ite]
    have hpolls := hrepeated.polls
    split
    · rename_i hexpired
      rw [hpolls] at hexpired
      exact ⟨rfl, hrepeated.nothingFound hrepeats (Or.inr hexpired) rfl⟩
    · rename_i hexpired
      have hsame := hrepeated.repeats_iff.mp hrepeats
      have hbytes : ∀ offset < 4, s.pBuf offset = env.stream (4 * (words + 1) + offset) := by
        intro offset hoffset
        have hbyte := eq_of_word_eq hsame offset hoffset
        rw [← hbyte]
        exact hrepeated.window.bytes offset (by omega)
      refine ⟨window_of_read hrepeated.window.taken hbytes hdelivers rfl rfl, ?_, by rw [hpolls],
        ?_, hrepeated.txSeqNum_eq, hrepeated.searchSync, hrepeated.timeoutState,
        hrepeated.examined⟩
      · intro index hindex
        rcases Nat.lt_succ_iff_lt_or_eq.mp hindex with hlt | heq
        · exact hrepeated.equal index hlt
        · exact heq ▸ hsame
      · intro poll hpoll
        rcases Nat.lt_succ_iff_lt_or_eq.mp hpoll with hlt | heq
        · exact hrepeated.inTime poll hlt
        · rw [heq, ← hpolls]
          exact Bool.eq_false_iff.mpr hexpired
  · rename_i hdelivers
    rw [htaken] at hdelivers
    exact ⟨rfl, hrepeated.nothingFound hrepeats (Or.inl (Bool.eq_false_iff.mpr hdelivers)) rfl⟩

end Repeats

section Pass

variable {cfg env txSeqNum} {s : HdrState} {index shift : ℕ}

/-- What a pass leaves alone. -/
def passView (s : HdrState) : ℕ × TimeoutState × Byte := (s.polls, s.timeoutState, s.txSeqNum)

/-- Behind a pattern the buffer is filled up to a whole word of the header. -/
theorem ends_acceptSync (hwindow : Window env index s) (hshift : shift ≤ 4) :
    Ends (acceptSync env shift) s
      (fun _ after => Behind env (4 * index + shift) after ∧ after.searchSync = false ∧
        passView after = passView s ∧ after.examined = s.examined)
      fun ret after => ret = .apiAborted ∧ delivers env (4 * index + shift + 8) = false ∧
        after.examined = s.examined := by
  have htaken := hwindow.taken
  have hcopied : ∀ offset, offset + shift < 4 →
      s.pBuf (shift + syncPatternLen + offset) = env.stream (4 * index + shift + 4 + offset) := by
    intro offset hoffset
    rw [hwindow.bytes _ (by unfold syncPatternLen; omega), syncPatternLen]
    congr 1
    omega
  rw [acceptSync, ends_bind, ends_modify, ends_bind, ends_runIf]
  split
  · rename_i hzero
    rw [ends_nwpIfReadCheck]
    have hsum : s.taken + shift = 4 * index + shift + 8 := by omega
    split
    · rename_i hdelivers
      refine ⟨⟨hsum, fun offset hoffset => ?_, hdelivers⟩, rfl, rfl, rfl⟩
      dsimp only
      rw [overwrite, syncPatternLen]
      split
      · congr 1
        omega
      · rw [overwrite, if_pos (by omega)]
        exact hcopied offset (by omega)
    · rename_i hdelivers
      refine ⟨rfl, ?_, rfl⟩
      rw [← hsum]
      exact Bool.eq_false_iff.mpr hdelivers
  · rename_i hzero
    have hshift0 : shift = 0 := Decidable.not_not.mp hzero
    subst hshift0
    refine ⟨⟨by omega, fun offset hoffset => ?_, hwindow.delivered⟩, rfl, rfl, rfl⟩
    dsimp only
    rw [overwrite, if_pos (by omega)]
    exact hcopied offset (by omega)

/-- A pass that finds a pattern finds the first one in its window. -/
structure PassFinds (cfg : SyncConfig) (env : HdrEnv) (txSeqNum : Byte) (index shift : ℕ) :
    Prop where
  shift_le : shift ≤ 4
  pattern : PatternAt cfg env txSeqNum (4 * index + shift)
  first : ∀ earlier < shift, ¬PatternAt cfg env txSeqNum (4 * index + earlier)

/-- The shifts are tried in order, up to the first that finds the pattern. -/
theorem ends_scanShifts (hwindow : Window env index s) (htxSeqNum : s.txSeqNum = txSeqNum)
    (hnone : NoneMatched cfg txSeqNum s) (left : ℕ) (hleft : left ≤ 5)
    (hbefore : ∀ earlier < 5 - left, ¬PatternAt cfg env txSeqNum (4 * index + earlier)) :
    Ends (scanShifts cfg env (List.range' (5 - left) left)) s
      (fun _ after =>
        (∀ shift ≤ 4, ¬PatternAt cfg env txSeqNum (4 * index + shift)) ∧
            Window env index after ∧ after.searchSync = s.searchSync ∧
            passView after = passView s ∧ NoneMatched cfg txSeqNum after ∨
          ∃ shift, PassFinds cfg env txSeqNum index shift ∧
            Behind env (4 * index + shift) after ∧ after.searchSync = false ∧
            passView after = passView s ∧ SomeMatched cfg txSeqNum after)
      fun ret after => ret = .apiAborted ∧ ∃ shift, PassFinds cfg env txSeqNum index shift ∧
        delivers env (4 * index + shift + 8) = false ∧ SomeMatched cfg txSeqNum after := by
  induction left generalizing s with
  | zero => exact Or.inl ⟨fun shift hshift => hbefore shift (by omega), hwindow, rfl, rfl, hnone⟩
  | succ left ih =>
      have hnext : 5 - (left + 1) + 1 = 5 - left := by omega
      have hword := hwindow.word_eq (5 - (left + 1)) (by omega)
      rw [List.range'_succ, hnext, scanShifts, ends_bind, ends_get, ends_bind, ends_modify,
        ends_ite]
      generalize hexamining : { s with
        examined := s.examined ++ [word s.pBuf (5 - (left + 1))] } = examining
      have hexamined : examining.examined =
          s.examined ++ [word env.stream (4 * index + (5 - (left + 1)))] := by
        rw [← hexamining, hword]
      have hsame : passView examining = passView s ∧ examining.searchSync = s.searchSync ∧
          examining.txSeqNum = s.txSeqNum := by
        rw [← hexamining]
        exact ⟨rfl, rfl, rfl⟩
      have hwindow' : Window env index examining := by
        rw [← hexamining]
        exact ⟨hwindow.taken, hwindow.bytes, hwindow.delivered⟩
      rw [hword, htxSeqNum]
      split
      · rename_i hmatch
        have hfinds : PassFinds cfg env txSeqNum index (5 - (left + 1)) :=
          ⟨by omega, hmatch, hbefore⟩
        have hsome : ∀ after : HdrState, after.examined = examining.examined →
            SomeMatched cfg txSeqNum after := by
          intro after hafter
          refine ⟨_, ?_, hmatch⟩
          rw [hafter, hexamined]
          exact List.mem_append_right _ List.mem_cons_self
        apply (ends_acceptSync hwindow' (by omega)).mono
        · intro _ after hafter
          obtain ⟨hbehind, hsearch, hview, hafter⟩ := hafter
          exact Or.inr ⟨_, hfinds, hbehind, hsearch, hview.trans hsame.1, hsome after hafter⟩
        · intro ret after hafter
          exact ⟨hafter.1, _, hfinds, hafter.2.1, hsome after hafter.2.2⟩
      · rename_i hmatch
        have hnone' : NoneMatched cfg txSeqNum examining := hnone.concat hmatch hexamined
        have hbefore' : ∀ earlier < 5 - left,
            ¬PatternAt cfg env txSeqNum (4 * index + earlier) := by
          intro earlier hearlier
          have hcases : earlier < 5 - (left + 1) ∨ earlier = 5 - (left + 1) := by omega
          cases hcases with
          | inl hlt => exact hbefore earlier hlt
          | inr heq => exact heq ▸ hmatch
        have hrest := ih hwindow' (hsame.2.2.trans htxSeqNum) hnone' (by omega) hbefore'
        rwa [hsame.1, hsame.2.1] at hrest

/-- Without a pattern, the window moves on by a word. -/
theorem ends_slide (hwindow : Window env index s) :
    Ends (slide env) s
      (fun _ after => Window env (index + 1) after ∧ after.searchSync = s.searchSync ∧
        passView after = passView s ∧ after.examined = s.examined)
      fun ret after => ret = .apiAborted ∧ delivers env (4 * (index + 3)) = false ∧
        after.examined = s.examined := by
  have htaken : s.taken + 4 = 4 * (index + 3) := by
    rw [hwindow.taken]
    omega
  rw [slide, ends_bind, ends_modify]
  generalize hlowered : { s with
    pBuf := overwrite s.pBuf 0 4 fun byte => s.pBuf (4 + byte) } = lowered
  have hlow : ∀ offset < 4, lowered.pBuf offset = env.stream (4 * (index + 1) + offset) := by
    intro offset hoffset
    rw [← hlowered]
    dsimp only
    rw [overwrite, if_pos (by omega), hwindow.bytes _ (by omega)]
    congr 1
    omega
  have hsame : lowered.taken = s.taken ∧ lowered.searchSync = s.searchSync ∧
      passView lowered = passView s ∧ lowered.examined = s.examined := by
    rw [← hlowered]
    exact ⟨rfl, rfl, rfl, rfl⟩
  rw [ends_nwpIfReadCheck]
  split
  · rename_i hdelivers
    exact ⟨window_of_read (hsame.1.trans hwindow.taken) hlow hdelivers rfl rfl, hsame.2⟩
  · rename_i hdelivers
    rw [hsame.1, htaken] at hdelivers
    exact ⟨rfl, Bool.eq_false_iff.mpr hdelivers, hsame.2.2.2⟩

theorem ends_pollTimeout {falls : PUnit → HdrState → Prop} {returns : RetCode → HdrState → Prop} :
    Ends (pollTimeout env) s falls returns ↔
      if s.timeoutState = .oneMoreShot then falls ⟨⟩ { s with timeoutState := .expiry }
      else falls ⟨⟩ { s with
        polls := s.polls + 1
        timeoutState := if env.expired s.polls then .oneMoreShot else s.timeoutState } := by
  rw [pollTimeout, ends_bind, ends_get, ends_ite]
  split
  · rfl
  · rw [ends_bind, ends_isTimeoutExpired, ends_runIf]
    cases env.expired s.polls <;> rfl

end Pass

section Scan

variable {cfg env txSeqNum} {s : HdrState} {base pass : ℕ}

/-- So many passes of the scan did not find the pattern, and one more is granted. -/
structure Scanning (cfg : SyncConfig) (env : HdrEnv) (txSeqNum : Byte) (base pass : ℕ)
    (s : HdrState) : Prop where
  window : Window env (base + pass) s
  polls : s.polls = base + pass
  txSeqNum_eq : s.txSeqNum = txSeqNum
  searchSync : s.searchSync = true
  unexpired : s.timeoutState ≠ .expiry
  last_iff : s.timeoutState = .oneMoreShot ↔
    ∃ earlier, pass = earlier + 1 ∧ env.expired (base + earlier) = true
  inTime : ∀ poll, poll < base ∨ poll + 1 < base + pass → env.expired poll = false
  unmatched : ∀ earlier < pass, ∀ shift ≤ 4,
    ¬PatternAt cfg env txSeqNum (4 * (base + earlier) + shift)
  examined : NoneMatched cfg txSeqNum s

/-- The scan is over without a pattern. -/
structure TimedOut (cfg : SyncConfig) (env : HdrEnv) (txSeqNum : Byte) (s : HdrState) : Prop where
  timeoutState : s.timeoutState = .expiry
  nothing : NothingFound cfg env txSeqNum s

/-- The scan has found the pattern at a position. -/
structure Found (cfg : SyncConfig) (env : HdrEnv) (txSeqNum : Byte) (base position : ℕ)
    (s : HdrState) : Prop where
  behind : Behind env position s
  reaches : Reaches cfg env txSeqNum base position
  txSeqNum_eq : s.txSeqNum = txSeqNum
  searchSync : s.searchSync = false
  expiry_iff : s.timeoutState = .expiry ↔ Late env base position
  examined : SomeMatched cfg txSeqNum s

/-- The states in front of a pass of the scan, or behind the last. -/
def Scanned (cfg : SyncConfig) (env : HdrEnv) (txSeqNum : Byte) (base pass : ℕ)
    (s : HdrState) : Prop :=
  Scanning cfg env txSeqNum base pass s ∨ TimedOut cfg env txSeqNum s ∨
    ∃ position, Found cfg env txSeqNum base position s

/-- A pattern was found, and the function gives up nevertheless. -/
def GivesUp (cfg : SyncConfig) (env : HdrEnv) (txSeqNum : Byte) (after : HdrState) : Prop :=
  SomeMatched cfg txSeqNum after ∧ ∃ base position, Reaches cfg env txSeqNum base position ∧
    (Late env base position ∨ FallsShort cfg env txSeqNum position)

theorem Scanning.searching (hscanning : Scanning cfg env txSeqNum base pass s) :
    RxHdr.searching s = true := by
  rw [RxHdr.searching, hscanning.searchSync, Bool.true_and, decide_eq_true_eq]
  exact hscanning.unexpired

theorem Scanned.of_searching (hscanned : Scanned cfg env txSeqNum base pass s)
    (hsearching : RxHdr.searching s = true) : Scanning cfg env txSeqNum base pass s := by
  rw [RxHdr.searching, Bool.and_eq_true, decide_eq_true_eq] at hsearching
  rcases hscanned with hscanning | htimedOut | ⟨position, hfound⟩
  · exact hscanning
  · exact absurd htimedOut.timeoutState hsearching.2
  · rw [hfound.searchSync] at hsearching
    cases hsearching.1

/-- Behind the repeated words the scan has its first pass before it. -/
theorem Repeated.scanned (hrepeated : Repeated env txSeqNum base s) :
    Scanned cfg env txSeqNum base 0 s := by
  refine Or.inl ⟨hrepeated.window, hrepeated.polls, hrepeated.txSeqNum_eq, hrepeated.searchSync,
    ?_, ?_, ?_, fun _ hearlier => absurd hearlier (Nat.not_lt_zero _), ?_⟩
  · rw [hrepeated.timeoutState]
    decide
  · rw [hrepeated.timeoutState]
    simp
  · exact fun poll hpoll => hrepeated.inTime poll (by omega)
  · rw [NoneMatched, hrepeated.examined]
    exact fun _ hwindow => absurd hwindow List.not_mem_nil

/-- The pattern that a pass finds is the one that the function reaches. -/
theorem Scanning.reaches (hscanning : Scanning cfg env txSeqNum base pass s)
    (hwritten : env.cnysWritten = true) (hbase : EndsRepeats env base) {shift : ℕ}
    (hfinds : PassFinds cfg env txSeqNum (base + pass) shift) :
    pollsBefore base (4 * (base + pass) + shift) = base + pass ∧
      Reaches cfg env txSeqNum base (4 * (base + pass) + shift) := by
  have hpolls : pollsBefore base (4 * (base + pass) + shift) = base + pass := by
    apply pollsBefore_eq hfinds.shift_le
    intro hpass
    by_contra hzero
    have hshift : shift = 0 := Nat.eq_zero_of_not_pos hzero
    apply hscanning.unmatched (pass - 1) (by omega) 4 (Nat.le_refl 4)
    have hsame : 4 * (base + (pass - 1)) + 4 = 4 * (base + pass) + shift := by omega
    rw [hsame]
    exact hfinds.pattern
  refine ⟨hpolls, hwritten, hbase, by omega, hfinds.pattern, ?_, ?_, ?_⟩
  · intro earlier hearlier hbehind
    have hcases : (earlier - 4 * base) / 4 < pass ∨ 4 * (base + pass) ≤ earlier := by omega
    cases hcases with
    | inl hlt =>
        have hnot := hscanning.unmatched _ hlt ((earlier - 4 * base) % 4) (by omega)
        have hsum : 4 * (base + (earlier - 4 * base) / 4) + (earlier - 4 * base) % 4 =
            earlier := by omega
        rwa [hsum] at hnot
    | inr hle =>
        have hnot := hfinds.first (earlier - 4 * (base + pass)) (by omega)
        rwa [Nat.add_sub_of_le hle] at hnot
  · rw [hpolls]
    exact hscanning.inTime
  · rw [hpolls, ← hscanning.window.taken]
    exact hscanning.window.delivered

/-- A pattern that no pass up to this one has found takes a later pass. -/
theorem Scanning.lt_pollsBefore (hscanning : Scanning cfg env txSeqNum base pass s)
    (hbase : EndsRepeats env base)
    (hunmatched : ∀ shift ≤ 4, ¬PatternAt cfg env txSeqNum (4 * (base + pass) + shift))
    {base' position : ℕ} (hreaches : Reaches cfg env txSeqNum base' position) :
    base' = base ∧ base + pass < pollsBefore base position := by
  have hsame := hreaches.repeats.unique hbase
  subst hsame
  refine ⟨rfl, RxHdr.lt_pollsBefore ?_⟩
  have hall : ∀ earlier < pass + 1, ∀ shift ≤ 4,
      ¬PatternAt cfg env txSeqNum (4 * (base' + earlier) + shift) := by
    intro earlier hearlier
    rcases Nat.lt_succ_iff_lt_or_eq.mp hearlier with hlt | heq
    · exact hscanning.unmatched earlier hlt
    · exact heq ▸ hunmatched
  exact hreaches.behind_passes hall (Nat.succ_pos pass)

theorem Scanning.le_pollsBefore (hscanning : Scanning cfg env txSeqNum base pass s)
    (hbase : EndsRepeats env base) {base' position : ℕ}
    (hreaches : Reaches cfg env txSeqNum base' position) : pass ≤ pollsBefore base' position := by
  obtain rfl := hreaches.repeats.unique hbase
  rcases Nat.eq_zero_or_pos pass with hzero | hpos
  · exact hzero ▸ Nat.zero_le _
  · have hbehind := hreaches.behind_passes hscanning.unmatched hpos
    have hlt := RxHdr.lt_pollsBefore hbehind
    omega

theorem Scanning.late_iff (hscanning : Scanning cfg env txSeqNum base pass s) {position : ℕ}
    (hpolls : pollsBefore base position = base + pass) :
    Late env base position ↔ s.timeoutState = .oneMoreShot := by
  rw [hscanning.last_iff, Late, hpolls]
  constructor
  · intro hlate
    refine ⟨pass - 1, by omega, ?_⟩
    have hsum : base + (pass - 1) = base + pass - 1 := by omega
    rw [hsum]
    exact hlate.2
  · rintro ⟨earlier, rfl, hexpired⟩
    exact ⟨by omega, hexpired⟩

/-- The poll behind a pass without the pattern grants one more pass, or ends the scan. -/
theorem Scanning.polled (hscanning : Scanning cfg env txSeqNum base pass s)
    (hbase : EndsRepeats env base)
    (hunmatched : ∀ shift ≤ 4, ¬PatternAt cfg env txSeqNum (4 * (base + pass) + shift))
    {slid : HdrState} (hwindow : Window env (base + pass + 1) slid)
    (hview : passView slid = passView s) (hsearch : slid.searchSync = true)
    (hnone : NoneMatched cfg txSeqNum slid) :
    Ends (pollTimeout env) slid
      (fun _ after => Scanned cfg env txSeqNum base (pass + 1) after) fun _ _ => False := by
  obtain ⟨hpolls, hview⟩ := Prod.mk.inj hview
  obtain ⟨htimeout, hseq⟩ := Prod.mk.inj hview
  rw [ends_pollTimeout, htimeout, hpolls.trans hscanning.polls]
  split
  · rename_i hlast
    obtain ⟨earlier, hpass, hexpired⟩ := hscanning.last_iff.mp hlast
    refine Or.inr (Or.inl ⟨rfl, hnone, fun base' position hreaches => ?_⟩)
    obtain ⟨rfl, hlater⟩ := hscanning.lt_pollsBefore hbase hunmatched hreaches
    have hnot := hreaches.inTime (base' + earlier) (Or.inr (by omega))
    rw [hexpired] at hnot
    cases hnot
  · rename_i hlast
    have hstate : s.timeoutState = .initVal := by
      cases hcase : s.timeoutState with
      | initVal => rfl
      | oneMoreShot => exact absurd hcase hlast
      | expiry => exact absurd hcase hscanning.unexpired
    rw [hstate]
    refine Or.inl ⟨⟨hwindow.taken, hwindow.bytes, hwindow.delivered⟩, rfl,
      hseq.trans hscanning.txSeqNum_eq, hsearch, ?_, ?_, ?_, ?_, hnone⟩
    · dsimp only
      split <;> simp
    · dsimp only
      constructor
      · intro hone
        refine ⟨pass, rfl, ?_⟩
        by_contra hexpired
        rw [if_neg hexpired] at hone
        cases hone
      · rintro ⟨earlier, hpass, hexpired⟩
        obtain rfl := Nat.succ.inj hpass
        rw [if_pos hexpired]
    · intro poll hpoll
      by_cases hearlier : poll < base ∨ poll + 1 < base + pass
      · exact hscanning.inTime poll hearlier
      · rw [Bool.eq_false_iff]
        intro hexpired
        have hpass : pass = pass - 1 + 1 := by omega
        have hpoll' : base + (pass - 1) = poll := by omega
        exact hlast (hscanning.last_iff.mpr ⟨pass - 1, hpass, hpoll'.symm ▸ hexpired⟩)
    · intro earlier hearlier
      rcases Nat.lt_succ_iff_lt_or_eq.mp hearlier with hlt | heq
      · exact hscanning.unmatched earlier hlt
      · exact heq ▸ hunmatched

theorem Scanning.missed (hscanning : Scanning cfg env txSeqNum base pass s)
    (hbase : EndsRepeats env base)
    (hunmatched : ∀ shift ≤ 4, ¬PatternAt cfg env txSeqNum (4 * (base + pass) + shift))
    {scanned : HdrState} (hwindow : Window env (base + pass) scanned)
    (hview : passView scanned = passView s) (hsearch : scanned.searchSync = true)
    (hnone : NoneMatched cfg txSeqNum scanned) :
    Ends (slide env >>= fun _ => pollTimeout env) scanned
      (fun _ after => Scanned cfg env txSeqNum base (pass + 1) after)
      fun ret after => ret = .apiAborted ∧ NothingFound cfg env txSeqNum after := by
  rw [ends_bind]
  apply (ends_slide hwindow).mono
  · intro _ slid hslid
    obtain ⟨hmoved, hsearch', hview', hexamined⟩ := hslid
    have hnone' : NoneMatched cfg txSeqNum slid := by
      rwa [NoneMatched, hexamined]
    apply (hscanning.polled hbase hunmatched hmoved (hview'.trans hview)
      (hsearch'.trans hsearch) hnone').mono
    · exact fun _ _ hafter => hafter
    · exact fun _ _ hfalse => hfalse.elim
  · intro ret after hafter
    obtain ⟨hret, hshort, hexamined⟩ := hafter
    refine ⟨hret, by rwa [NoneMatched, hexamined], fun base' position hreaches => ?_⟩
    obtain ⟨rfl, hlater⟩ := hscanning.lt_pollsBefore hbase hunmatched hreaches
    have hmore := delivers_of_le hreaches.delivered (by omega : 4 * (base' + pass + 3) ≤ _)
    rw [hshort] at hmore
    cases hmore

/-- A pass that finds the pattern is the last, whatever the poll behind it gives. -/
theorem Scanning.found (hscanning : Scanning cfg env txSeqNum base pass s)
    (hwritten : env.cnysWritten = true) (hbase : EndsRepeats env base) {shift : ℕ}
    (hfinds : PassFinds cfg env txSeqNum (base + pass) shift) {accepted : HdrState}
    (hbehind : Behind env (4 * (base + pass) + shift) accepted)
    (hsearch : accepted.searchSync = false) (hview : passView accepted = passView s)
    (hsome : SomeMatched cfg txSeqNum accepted) :
    Ends (pollTimeout env) accepted
      (fun _ after => Scanned cfg env txSeqNum base (pass + 1) after) fun _ _ => False := by
  obtain ⟨-, hview⟩ := Prod.mk.inj hview
  obtain ⟨htimeout, hseq⟩ := Prod.mk.inj hview
  obtain ⟨hpolls, hreaches⟩ := hscanning.reaches hwritten hbase hfinds
  have hlate := hscanning.late_iff hpolls
  rw [ends_pollTimeout, htimeout]
  split
  · rename_i hlast
    exact Or.inr (Or.inr ⟨_, ⟨hbehind.taken, hbehind.bytes, hbehind.delivered⟩, hreaches,
      hseq.trans hscanning.txSeqNum_eq, hsearch, ⟨fun _ => hlate.mpr hlast, fun _ => rfl⟩, hsome⟩)
  · rename_i hlast
    refine Or.inr (Or.inr ⟨_, ⟨hbehind.taken, hbehind.bytes, hbehind.delivered⟩, hreaches,
      hseq.trans hscanning.txSeqNum_eq, hsearch, ?_, hsome⟩)
    rw [hlate]
    constructor
    · intro hexpiry
      split at hexpiry
      · cases hexpiry
      · exact absurd hexpiry hscanning.unexpired
    · exact fun hone => absurd hone hlast

theorem ends_scanPass (hscanning : Scanning cfg env txSeqNum base pass s)
    (hwritten : env.cnysWritten = true) (hbase : EndsRepeats env base) :
    Ends (scanPass cfg env) s (fun _ after => Scanned cfg env txSeqNum base (pass + 1) after)
      fun ret after => ret = .apiAborted ∧
        (NothingFound cfg env txSeqNum after ∨ GivesUp cfg env txSeqNum after) := by
  rw [scanPass, ends_bind]
  apply (ends_scanShifts hscanning.window hscanning.txSeqNum_eq hscanning.examined 5
    (Nat.le_refl 5) fun _ hearlier => absurd hearlier (by omega)).mono
  · intro _ scanned hscanned
    rw [ends_bind, ends_get]
    rcases hscanned with ⟨hunmatched, hwindow, hsearch, hview, hnone⟩ |
      ⟨shift, hfinds, hbehind, hsearch, hview, hsome⟩
    · have hsearching := hsearch.trans hscanning.searchSync
      rw [hsearching, runIf, if_pos rfl]
      apply (hscanning.missed hbase hunmatched hwindow hview hsearching hnone).mono
      · exact fun _ _ hafter => hafter
      · exact fun _ _ hafter => ⟨hafter.1, Or.inl hafter.2⟩
    · rw [hsearch, runIf, if_neg Bool.false_ne_true, ends_bind, ends_pure]
      apply (hscanning.found hwritten hbase hfinds hbehind hsearch hview hsome).mono
      · exact fun _ _ hafter => hafter
      · exact fun _ _ hfalse => hfalse.elim
  · intro ret after hafter
    obtain ⟨hret, shift, hfinds, hshort, hsome⟩ := hafter
    have hreaches := (hscanning.reaches hwritten hbase hfinds).2
    have hnone : Copies cfg env txSeqNum (4 * (base + pass) + shift) 0 :=
      fun _ hcopy => absurd hcopy (Nat.not_lt_zero _)
    exact ⟨hret, Or.inr ⟨hsome, base, _, hreaches, Or.inr ⟨0, hnone, Or.inl hshort⟩⟩⟩

end Scan

section Header

variable {cfg env txSeqNum} {s : HdrState} {base position copies fuel : ℕ}

/-- So many more copies of the pattern were dropped. -/
structure Dropped (cfg : SyncConfig) (env : HdrEnv) (txSeqNum : Byte) (position copies : ℕ)
    (s : HdrState) : Prop where
  behind : Behind env (position + 4 * copies) s
  copies : Copies cfg env txSeqNum position copies
  txSeqNum_eq : s.txSeqNum = txSeqNum
  examined : SomeMatched cfg txSeqNum s

theorem Dropped.doubled_iff (hdropped : Dropped cfg env txSeqNum position copies s) :
    doubled cfg s = true ↔ PatternAt cfg env txSeqNum (position + 4 + 4 * copies) := by
  rw [doubled, hdropped.behind.word_eq, hdropped.txSeqNum_eq, Nat.add_right_comm]
  rfl

theorem ends_dropCopy (hdropped : Dropped cfg env txSeqNum position copies s)
    (hdoubled : doubled cfg s = true) :
    Ends (nwpIfReadCheck env 0 syncPatternLen) s
      (fun _ after => Dropped cfg env txSeqNum position (copies + 1) after)
      fun ret after => ret = .apiAborted ∧ FallsShort cfg env txSeqNum position ∧
        SomeMatched cfg txSeqNum after := by
  have htaken := hdropped.behind.taken
  have hcopies : Copies cfg env txSeqNum position (copies + 1) := by
    intro copy hcopy
    rcases Nat.lt_succ_iff_lt_or_eq.mp hcopy with hlt | heq
    · exact hdropped.copies copy hlt
    · exact heq ▸ hdropped.doubled_iff.mp hdoubled
  have hsum : s.taken + syncPatternLen = position + 8 + 4 * (copies + 1) := by
    rw [htaken, syncPatternLen]
    omega
  rw [ends_nwpIfReadCheck]
  split
  · rename_i hdelivers
    refine ⟨⟨hsum.trans (by omega), fun offset hoffset => ?_, hdelivers⟩, hcopies,
      hdropped.txSeqNum_eq, hdropped.examined⟩
    dsimp only
    rw [overwrite, syncPatternLen, if_pos (by omega), htaken]
    congr 1
  · rename_i hdelivers
    rw [hsum] at hdelivers
    exact ⟨rfl, ⟨_, hcopies, Or.inl (Bool.eq_false_iff.mpr hdelivers)⟩, hdropped.examined⟩

/-- The header behind the last copy of the pattern was read. -/
structure HeaderRead (env : HdrEnv) (txSeqNum : Byte) (position : ℕ) (after : HdrState) :
    Prop where
  taken : after.taken = position + 16
  bytes : ∀ offset < respHdrSize, after.pBuf offset = env.stream (position + 4 + offset)
  txSeqNum_eq : after.txSeqNum = txSeqNum + 1
  delivered : delivers env after.taken = true

theorem ends_readHeader (hdropped : Dropped cfg env txSeqNum position copies s)
    (hheader : doubled cfg s = false) :
    Ends (modify (fun s : HdrState => { s with txSeqNum := s.txSeqNum + 1 }) >>= fun _ =>
        nwpIfReadCheck env syncPatternLen respSpecHdrSize) s
      (fun _ after => HeaderRead env txSeqNum (position + 4 * copies) after)
      fun ret after => ret = .apiAborted ∧ FallsShort cfg env txSeqNum position ∧
        SomeMatched cfg txSeqNum after := by
  have htaken := hdropped.behind.taken
  have hsum : s.taken + respSpecHdrSize = position + 16 + 4 * copies := by
    rw [htaken, respSpecHdrSize]
    omega
  rw [ends_bind, ends_modify, ends_nwpIfReadCheck]
  split
  · rename_i hdelivers
    refine ⟨hsum.trans (by omega), fun offset hoffset => ?_, by rw [hdropped.txSeqNum_eq],
      hdelivers⟩
    rw [respHdrSize, syncPatternLen, respSpecHdrSize] at hoffset
    dsimp only
    rw [overwrite, syncPatternLen, respSpecHdrSize]
    split
    · rw [htaken]
      congr 1
      omega
    · exact hdropped.behind.bytes offset (by omega)
  · rename_i hdelivers
    rw [hsum] at hdelivers
    have hnot : ¬PatternAt cfg env txSeqNum (position + 4 + 4 * copies) := by
      rw [← hdropped.doubled_iff, hheader]
      exact Bool.false_ne_true
    exact ⟨rfl, ⟨copies, hdropped.copies, Or.inr ⟨hnot, Bool.eq_false_iff.mpr hdelivers⟩⟩,
      hdropped.examined⟩

/-- The function found the pattern in time, and read the header behind its copies. -/
def ReadsHeader (cfg : SyncConfig) (env : HdrEnv) (txSeqNum : Byte) (after : HdrState) : Prop :=
  ∃ base position copies, Reaches cfg env txSeqNum base position ∧ ¬Late env base position ∧
    Copies cfg env txSeqNum position copies ∧
    ¬PatternAt cfg env txSeqNum (position + 4 + 4 * copies) ∧
    HeaderRead env txSeqNum (position + 4 * copies) after

/-- A loop goes on for so many rounds: no poll tells of an expired timeout and no pattern is
reached in them, or so many copies of the pattern follow it. -/
def GoesOn (cfg : SyncConfig) (env : HdrEnv) (txSeqNum : Byte) (rounds : ℕ) : Prop :=
  (∀ poll, poll + 1 < rounds → env.expired poll = false) ∧
      (∀ base position, Reaches cfg env txSeqNum base position →
        rounds ≤ pollsBefore base position) ∨
    ∃ base position, Reaches cfg env txSeqNum base position ∧ ¬Late env base position ∧
      Copies cfg env txSeqNum position rounds ∧ delivers env (position + 8 + 4 * rounds) = true

/-- How the function returns before its end, or does not return within so many rounds. -/
def Aborts (cfg : SyncConfig) (env : HdrEnv) (txSeqNum : Byte) (rounds : ℕ) (ret : RetCode)
    (after : HdrState) : Prop :=
  ret = .apiAborted ∧ (NothingFound cfg env txSeqNum after ∨ GivesUp cfg env txSeqNum after) ∨
    ret = .noReturn ∧ GoesOn cfg env txSeqNum rounds

/-- The rest of the function behind the scan loop. -/
theorem ends_finish (hfound : Found cfg env txSeqNum base position s)
    (hlate : ¬Late env base position) :
    Ends (whileLoop .noReturn (doubled cfg) (nwpIfReadCheck env 0 syncPatternLen) fuel >>=
        fun _ => modify (fun s : HdrState => { s with txSeqNum := s.txSeqNum + 1 }) >>= fun _ =>
          nwpIfReadCheck env syncPatternLen respSpecHdrSize) s
      (fun _ after => ReadsHeader cfg env txSeqNum after)
      (Aborts cfg env txSeqNum fuel) := by
  have hstart : Dropped cfg env txSeqNum position 0 s :=
    ⟨hfound.behind, fun _ hcopy => absurd hcopy (Nat.not_lt_zero _), hfound.txSeqNum_eq,
      hfound.examined⟩
  have hgivesUp : ∀ ret after, ret = RetCode.apiAborted ∧ FallsShort cfg env txSeqNum position ∧
      SomeMatched cfg txSeqNum after → Aborts cfg env txSeqNum fuel ret after := by
    intro ret after hafter
    exact Or.inl ⟨hafter.1, Or.inr ⟨hafter.2.2, base, position, hfound.reaches,
      Or.inr hafter.2.1⟩⟩
  rw [ends_bind]
  apply (ends_whileLoop (fun _ _ hdropped => ends_dropCopy hdropped) hstart fuel).mono
  · intro _ last hlast
    obtain ⟨copies, -, hdropped, hheader⟩ := hlast
    apply (ends_readHeader hdropped hheader).mono
    · intro _ after hafter
      have hnot : ¬PatternAt cfg env txSeqNum (position + 4 + 4 * copies) := by
        rw [← hdropped.doubled_iff, hheader]
        exact Bool.false_ne_true
      exact ⟨base, position, copies, hfound.reaches, hlate, hdropped.copies, hnot, hafter⟩
    · exact hgivesUp
  · intro ret after hafter
    rcases hafter with hreturns | ⟨hret, hdropped, -⟩
    · exact hgivesUp ret after hreturns
    · rw [Nat.zero_add] at hdropped
      have hdelivered := hdropped.behind.delivered
      rw [hdropped.behind.taken, Nat.add_right_comm] at hdelivered
      exact Or.inr ⟨hret, Or.inr ⟨base, position, hfound.reaches, hlate, hdropped.copies,
        hdelivered⟩⟩

/-- How a call ends, with its loops run for at most so many rounds. -/
theorem ends_slDrvRxHdrRead (pBuf : ℕ → Byte) (fuel : ℕ) :
    Ends (slDrvRxHdrRead cfg env fuel) (start pBuf txSeqNum)
      (fun _ after => ReadsHeader cfg env txSeqNum after) (Aborts cfg env txSeqNum fuel) := by
  have hnone : NoneMatched cfg txSeqNum (start pBuf txSeqNum) :=
    fun _ hwindow => absurd hwindow List.not_mem_nil
  rw [slDrvRxHdrRead, ends_bind, ends_runIf]
  split
  · rename_i hwritten
    refine Or.inl ⟨rfl, Or.inl ⟨hnone, fun base position hreaches => ?_⟩⟩
    rw [hreaches.written] at hwritten
    cases hwritten
  rename_i hwritten
  rw [Bool.not_eq_false] at hwritten
  rw [ends_bind, ends_nwpIfReadCheck]
  split
  swap
  · rename_i hdelivers
    refine Or.inl ⟨rfl, Or.inl ⟨hnone, fun base position hreaches => hdelivers ?_⟩⟩
    exact delivers_of_le hreaches.delivered (by simp only [start]; omega)
  rename_i hdelivers
  generalize hread : { start pBuf txSeqNum with
    pBuf := overwrite (start pBuf txSeqNum).pBuf 0 8 fun index =>
      env.stream ((start pBuf txSeqNum).taken + index)
    taken := (start pBuf txSeqNum).taken + 8 } = read
  have hrepeated : Repeated env txSeqNum 0 read := by
    rw [← hread]
    refine ⟨⟨rfl, fun offset hoffset => ?_, hdelivers⟩, ?_, rfl, ?_, rfl, rfl, rfl, rfl⟩
    · dsimp only
      rw [overwrite, if_pos (by omega)]
      congr 1
    · exact fun _ hindex => absurd hindex (Nat.not_lt_zero _)
    · exact fun _ hpoll => absurd hpoll (Nat.not_lt_zero _)
  rw [ends_bind]
  apply (ends_whileLoop (fun _ _ hrepeated => ends_readRepeated hrepeated) hrepeated fuel).mono
  · intro _ skipped hskipped
    obtain ⟨base, -, hskipped, hends⟩ := hskipped
    have hbase := hskipped.endsRepeats hends
    rw [ends_bind]
    apply (ends_whileLoop (fun _ _ hscanned hsearching =>
      ends_scanPass (hscanned.of_searching hsearching) hwritten hbase) hskipped.scanned fuel).mono
    · intro _ scanned hscanned
      obtain ⟨pass, -, hscanned, hsearching⟩ := hscanned
      rw [ends_bind, ends_get, ends_bind, ends_runIf]
      rcases hscanned with hscanning | htimedOut | ⟨position, hfound⟩
      · rw [hscanning.searching] at hsearching
        cases hsearching
      · rw [if_pos htimedOut.timeoutState]
        exact Or.inl ⟨rfl, Or.inl htimedOut.nothing⟩
      · by_cases hlate : Late env base position
        · rw [if_pos (hfound.expiry_iff.mpr hlate)]
          exact Or.inl ⟨rfl, Or.inr ⟨hfound.examined, base, position, hfound.reaches,
            Or.inl hlate⟩⟩
        · rw [if_neg (fun hexpiry => hlate (hfound.expiry_iff.mp hexpiry))]
          exact ends_finish hfound hlate
    · intro ret after hafter
      rcases hafter with hreturns | ⟨hret, hscanned, hsearching⟩
      · exact Or.inl hreturns
      · have hscanning := hscanned.of_searching hsearching
        rw [Nat.zero_add] at hscanning
        exact Or.inr ⟨hret, Or.inl ⟨fun poll hpoll => hscanning.inTime poll (by omega),
          fun _ _ hreaches => hscanning.le_pollsBefore hbase hreaches⟩⟩
  · intro ret after hafter
    rcases hafter with hreturns | ⟨hret, hskipped, -⟩
    · exact Or.inl ⟨hreturns.1, Or.inl hreturns.2⟩
    · rw [Nat.zero_add] at hskipped
      exact Or.inr ⟨hret, Or.inl ⟨fun poll hpoll => hskipped.inTime poll (by omega),
        fun _ _ hreaches => hskipped.le_pollsBefore hreaches⟩⟩

end Header

end SimpleLinkHost.RxHdr
