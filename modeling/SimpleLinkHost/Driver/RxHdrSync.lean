import Mathlib.Data.List.GetD
import SimpleLinkHost.Driver.RxHdrRuns

/-!
# Finding a header behind junk

A stream that carries a header is junk of any length, some copies of the sync word, and the
header.  `_SlDrvRxHdrRead` reads that header if no poll of the timeout is late.  It does not
return while copies of the sync pattern follow each other, and it gives up a pattern that it
finds in its last pass.
-/

namespace SimpleLinkHost.RxHdr

open CallOutcome
open Calls (Byte FatalError RetCode)

section Frame

/-- The byte of a list at an index. -/
def byteAt (bytes : List Byte) (index : ℕ) : Byte := bytes.getD index 0

/-- The bytes that carry a header over the interface. -/
def syncImage (junk sync header : List Byte) (copies : ℕ) : List Byte :=
  junk ++ (List.replicate copies sync).flatten ++ header

/-- Junk in which no window matches the sync pattern, identical copies of a sync word, and a
header that does not begin like it. -/
structure SyncFrame (cfg : SyncConfig) (txSeqNum : Byte) where
  junk : List Byte
  sync : List Byte
  header : List Byte
  copies : ℕ
  sync_length : sync.length = syncPatternLen
  header_length : header.length = respHdrSize
  copies_pos : 0 < copies
  sync_matches : syncPatternMatch cfg (word (byteAt sync) 0) txSeqNum = true
  header_unmatched : syncPatternMatch cfg (word (byteAt header) 0) txSeqNum = false
  header_begin : byteAt header 0 ≠ byteAt sync 0
  junk_unmatched : ∀ position < junk.length,
    syncPatternMatch cfg (word (byteAt (syncImage junk sync header copies)) position)
      txSeqNum = false

variable {cfg : SyncConfig} {txSeqNum : Byte}

def SyncFrame.bytes (frame : SyncFrame cfg txSeqNum) : List Byte :=
  syncImage frame.junk frame.sync frame.header frame.copies

/-- Where the header of a frame begins. -/
def SyncFrame.headerAt (frame : SyncFrame cfg txSeqNum) : ℕ :=
  frame.junk.length + 4 * frame.copies

theorem length_copies {sync : List Byte} (hsync : sync.length = syncPatternLen) (copies : ℕ) :
    (List.replicate copies sync).flatten.length = 4 * copies := by
  rw [List.length_flatten, List.map_replicate, List.sum_replicate_nat, hsync, syncPatternLen,
    Nat.mul_comm]

theorem SyncFrame.length_bytes (frame : SyncFrame cfg txSeqNum) :
    frame.bytes.length = frame.headerAt + respHdrSize := by
  rw [bytes, syncImage, List.length_append, List.length_append, length_copies frame.sync_length,
    frame.header_length]
  rfl

/-- Every copy of the sync word has its bytes. -/
theorem byteAt_copies {sync : List Byte} (hsync : sync.length = syncPatternLen) (tail : List Byte)
    {copies copy index : ℕ} (hcopy : copy < copies) (hindex : index < 4) :
    byteAt ((List.replicate copies sync).flatten ++ tail) (4 * copy + index) =
      byteAt sync index := by
  rw [syncPatternLen] at hsync
  induction copies generalizing copy with
  | zero => exact absurd hcopy (Nat.not_lt_zero _)
  | succ copies ih =>
      rw [List.replicate_succ, List.flatten_cons, List.append_assoc]
      cases copy with
      | zero =>
          rw [Nat.mul_zero, Nat.zero_add]
          exact List.getD_append _ _ _ _ (by omega)
      | succ copy =>
          have hrest := ih (by omega : copy < copies)
          rw [byteAt, List.getD_append_right _ _ _ _ (by omega), hsync]
          have hsub : 4 * (copy + 1) + index - 4 = 4 * copy + index := by omega
          rw [hsub]
          exact hrest

theorem SyncFrame.byteAt_sync (frame : SyncFrame cfg txSeqNum) {copy index : ℕ}
    (hcopy : copy < frame.copies) (hindex : index < 4) :
    byteAt frame.bytes (frame.junk.length + 4 * copy + index) = byteAt frame.sync index := by
  rw [bytes, syncImage, byteAt, List.append_assoc,
    List.getD_append_right _ _ _ _ (by omega : frame.junk.length ≤ _), Nat.add_assoc,
    Nat.add_sub_cancel_left]
  exact byteAt_copies frame.sync_length frame.header hcopy hindex

theorem SyncFrame.byteAt_header (frame : SyncFrame cfg txSeqNum) (index : ℕ) :
    byteAt frame.bytes (frame.headerAt + index) = byteAt frame.header index := by
  have hlength : (frame.junk ++ (List.replicate frame.copies frame.sync).flatten).length =
      frame.headerAt := by
    rw [List.length_append, length_copies frame.sync_length]
    rfl
  rw [bytes, syncImage, byteAt, List.getD_append_right _ _ _ _ (by omega), hlength,
    Nat.add_sub_cancel_left]
  rfl

end Frame

section Carried

variable {cfg : SyncConfig} {txSeqNum : Byte} {env : HdrEnv} {frame : SyncFrame cfg txSeqNum}

/-- The interface delivers the bytes of a frame, and no poll tells of an expired timeout. -/
structure Carries (env : HdrEnv) (frame : SyncFrame cfg txSeqNum) : Prop where
  written : env.cnysWritten = true
  stream : ∀ index < frame.bytes.length, env.stream index = byteAt frame.bytes index
  delivered : delivers env frame.bytes.length = true
  inTime : ∀ poll, env.expired poll = false

theorem Carries.stream_sync (hcarries : Carries env frame) {copy index : ℕ}
    (hcopy : copy < frame.copies) (hindex : index < 4) :
    env.stream (frame.junk.length + 4 * copy + index) = byteAt frame.sync index := by
  have hlength := frame.length_bytes
  rw [SyncFrame.headerAt] at hlength
  rw [hcarries.stream _ (by omega)]
  exact frame.byteAt_sync hcopy hindex

theorem Carries.stream_header (hcarries : Carries env frame) {index : ℕ}
    (hindex : index < respHdrSize) :
    env.stream (frame.headerAt + index) = byteAt frame.header index := by
  have hlength := frame.length_bytes
  rw [hcarries.stream _ (by omega)]
  exact frame.byteAt_header index

theorem Carries.patternAt_copy (hcarries : Carries env frame) {copy : ℕ}
    (hcopy : copy < frame.copies) :
    PatternAt cfg env txSeqNum (frame.junk.length + 4 * copy) := by
  have hword : word env.stream (frame.junk.length + 4 * copy) = word (byteAt frame.sync) 0 := by
    apply word_congr
    intro index hindex
    rw [Nat.zero_add]
    exact hcarries.stream_sync hcopy hindex
  rw [PatternAt, hword]
  exact frame.sync_matches

theorem Carries.not_patternAt_header (hcarries : Carries env frame) :
    ¬PatternAt cfg env txSeqNum frame.headerAt := by
  have hword : word env.stream frame.headerAt = word (byteAt frame.header) 0 := by
    apply word_congr
    intro index hindex
    rw [Nat.zero_add]
    exact hcarries.stream_header (hindex.trans (by decide))
  rw [PatternAt, hword, frame.header_unmatched]
  exact Bool.false_ne_true

theorem Carries.not_patternAt_junk (hcarries : Carries env frame) {position : ℕ}
    (hposition : position < frame.junk.length) : ¬PatternAt cfg env txSeqNum position := by
  have hlength := frame.length_bytes
  rw [SyncFrame.headerAt, respHdrSize, syncPatternLen, respSpecHdrSize] at hlength
  have hword : word env.stream position = word (byteAt frame.bytes) position := by
    apply word_congr
    intro index hindex
    exact hcarries.stream _ (by omega)
  rw [PatternAt, hword, SyncFrame.bytes, frame.junk_unmatched position hposition]
  exact Bool.false_ne_true

/-- The words of the stream stop to repeat with the last copy of the sync word. -/
theorem Carries.word_ne (hcarries : Carries env frame) :
    word env.stream (4 * (frame.junk.length / 4 + (frame.copies - 1))) ≠
      word env.stream (4 * (frame.junk.length / 4 + (frame.copies - 1) + 1)) := by
  have hpos := frame.copies_pos
  intro hequal
  have hbyte := eq_of_word_eq hequal (frame.junk.length % 4) (Nat.mod_lt _ (by decide))
  have hlast : 4 * (frame.junk.length / 4 + (frame.copies - 1)) + frame.junk.length % 4 =
      frame.junk.length + 4 * (frame.copies - 1) + 0 := by omega
  have hnext : 4 * (frame.junk.length / 4 + (frame.copies - 1) + 1) + frame.junk.length % 4 =
      frame.headerAt + 0 := by
    rw [SyncFrame.headerAt]
    omega
  rw [hlast, hnext, hcarries.stream_sync (by omega) (by decide),
    hcarries.stream_header (by decide)] at hbyte
  exact frame.header_begin hbyte.symm

theorem Carries.exists_base (hcarries : Carries env frame) :
    ∃ base ≤ frame.junk.length / 4 + (frame.copies - 1), EndsRepeats env base := by
  have hends : ∃ index, word env.stream (4 * index) ≠ word env.stream (4 * (index + 1)) :=
    ⟨_, hcarries.word_ne⟩
  refine ⟨Nat.find hends, Nat.find_min' hends hcarries.word_ne, ?_, Nat.find_spec hends⟩
  intro index hindex
  exact not_not.mp (Nat.find_min hends hindex)

theorem stream_mod {limit : ℕ}
    (hperiod : ∀ index < limit, env.stream index = env.stream (index + 4)) :
    ∀ index < limit + 4, env.stream index = env.stream (index % 4) := by
  intro index
  induction index using Nat.strong_induction_on with
  | h index ih =>
      intro hindex
      rcases Nat.lt_or_ge index 4 with hlt | hge
      · rw [Nat.mod_eq_of_lt hlt]
      · have hprevious := ih (index - 4) (by omega) (by omega)
        have hstep := hperiod (index - 4) (by omega)
        rw [Nat.sub_add_cancel hge] at hstep
        rw [← hstep, hprevious, ← Nat.mod_eq_sub_mod hge]

/-- Where the repeats end behind the first copy, all of the stream up to the header repeats. -/
theorem Carries.stream_period (hcarries : Carries env frame) {base : ℕ}
    (hbase : EndsRepeats env base) (hbehind : frame.junk.length < 4 * base) {index : ℕ}
    (hindex : index < frame.junk.length + 4 * (frame.copies - 1)) :
    env.stream index = env.stream (index + 4) := by
  rcases Nat.lt_or_ge index (4 * base) with hlt | hge
  · have hbyte := eq_of_word_eq (hbase.1 (index / 4) (by omega)) (index % 4)
      (Nat.mod_lt _ (by decide))
    have hsum : 4 * (index / 4) + index % 4 = index := Nat.div_add_mod index 4
    rwa [Nat.mul_add, Nat.mul_one, Nat.add_right_comm, hsum] at hbyte
  · have hmod : (index - frame.junk.length) % 4 < 4 := Nat.mod_lt _ (by decide)
    have hfirst := hcarries.stream_sync
      (by omega : (index - frame.junk.length) / 4 < frame.copies) hmod
    have hsecond := hcarries.stream_sync
      (by omega : (index - frame.junk.length) / 4 + 1 < frame.copies) hmod
    have hindex' : frame.junk.length + 4 * ((index - frame.junk.length) / 4) +
        (index - frame.junk.length) % 4 = index := by omega
    have hnext : frame.junk.length + 4 * ((index - frame.junk.length) / 4 + 1) +
        (index - frame.junk.length) % 4 = index + 4 := by omega
    rw [hindex'] at hfirst
    rw [hnext] at hsecond
    exact hfirst.trans hsecond.symm

/-- The search gets to one of the copies. -/
theorem Carries.reaches (hcarries : Carries env frame) :
    ∃ base, ∃ copy < frame.copies,
      Reaches cfg env txSeqNum base (frame.junk.length + 4 * copy) := by
  obtain ⟨base, hle, hbase⟩ := hcarries.exists_base
  have hpos := frame.copies_pos
  have hdelivered : ∀ copy < frame.copies,
      delivers env (4 * (pollsBefore base (frame.junk.length + 4 * copy) + 2)) = true := by
    intro copy hcopy
    apply delivers_of_le hcarries.delivered
    rw [frame.length_bytes, SyncFrame.headerAt, respHdrSize, syncPatternLen, respSpecHdrSize,
      pollsBefore]
    omega
  have hinTime (poll : ℕ) := hcarries.inTime poll
  rcases Nat.lt_or_ge frame.junk.length (4 * base) with hbehind | hbefore
  · -- the repeats end with the last copy, and the windows before it are windows of the junk
    have hmod := stream_mod fun _ => hcarries.stream_period hbase hbehind
    have hposition : frame.junk.length + 4 * (base - frame.junk.length / 4) =
        4 * base + frame.junk.length % 4 := by omega
    refine ⟨base, base - frame.junk.length / 4, by omega, hcarries.written, hbase, by omega,
      hcarries.patternAt_copy (by omega), ?_, fun poll _ => hinTime poll,
      hdelivered _ (by omega)⟩
    intro earlier hearlier hle'
    have hword : word env.stream earlier = word env.stream (earlier % 4) := by
      apply word_congr
      intro index hindex
      rw [hmod (earlier + index) (by omega), hmod (earlier % 4 + index) (by omega),
        Nat.mod_add_mod]
    rw [PatternAt, hword]
    exact hcarries.not_patternAt_junk (by omega)
  · refine ⟨base, 0, hpos, hcarries.written, hbase, by omega, hcarries.patternAt_copy hpos, ?_,
      fun poll _ => hinTime poll, hdelivered 0 hpos⟩
    intro earlier hearlier _
    exact hcarries.not_patternAt_junk hearlier

end Carried

section Results

variable {cfg : SyncConfig} {txSeqNum : Byte} {env : HdrEnv}

/-- Behind a copy of the sync word, the remaining copies are those up to the header. -/
theorem Carries.copies_iff {frame : SyncFrame cfg txSeqNum} (hcarries : Carries env frame)
    {copy copies : ℕ} (hcopy : copy < frame.copies) :
    Copies cfg env txSeqNum (frame.junk.length + 4 * copy) copies ↔
      copies + copy < frame.copies := by
  constructor
  · intro hcopies
    by_contra hle
    apply hcarries.not_patternAt_header
    have hheader : frame.junk.length + 4 * copy + 4 + 4 * (frame.copies - copy - 1) =
        frame.headerAt := by
      rw [SyncFrame.headerAt]
      omega
    rw [← hheader]
    exact hcopies _ (by omega)
  · intro hlt other hother
    have hposition : frame.junk.length + 4 * copy + 4 + 4 * other =
        frame.junk.length + 4 * (copy + 1 + other) := by omega
    rw [hposition]
    exact hcarries.patternAt_copy (by omega)

/-- The header of a frame is read, however long the junk is and however often the sync word
comes. -/
theorem completes_slDrvRxHdrRead (frame : SyncFrame cfg txSeqNum) (hcarries : Carries env frame)
    (pBuf : ℕ → Byte) :
    ∃ rounds, ∀ fuel ≥ rounds,
      Completes (slDrvRxHdrRead cfg env fuel) (start pBuf txSeqNum) fun _ after =>
        (∀ offset < respHdrSize, after.pBuf offset = byteAt frame.header offset) ∧
          after.taken = frame.bytes.length ∧ after.txSeqNum = txSeqNum + 1 := by
  obtain ⟨base, copy, hcopy, hreaches⟩ := hcarries.reaches
  have hlength := frame.length_bytes
  rw [respHdrSize, syncPatternLen, respSpecHdrSize] at hlength
  have hheaderAt : frame.headerAt = frame.junk.length + 4 * frame.copies := rfl
  refine ⟨pollsBefore base (frame.junk.length + 4 * copy) + 1 + frame.copies,
    fun fuel hfuel => (ends_slDrvRxHdrRead pBuf fuel).mono ?_ ?_⟩
  · rintro _ after ⟨base', position, copies, hreaches', -, hcopies, hnot, hread⟩
    obtain ⟨rfl, rfl⟩ := hreaches.unique hreaches'
    have hall : copies + copy + 1 = frame.copies := by
      have hlt := (hcarries.copies_iff hcopy).mp hcopies
      by_contra hne
      apply hnot
      exact (hcarries.copies_iff hcopy).mpr (by omega : copies + 1 + copy < _) copies
        (Nat.lt_succ_self copies)
    refine ⟨fun offset hoffset => ?_, ?_, hread.txSeqNum_eq⟩
    · have hposition : frame.junk.length + 4 * copy + 4 * copies + 4 + offset =
          frame.headerAt + offset := by omega
      rw [hread.bytes offset hoffset, hposition]
      exact hcarries.stream_header hoffset
    · rw [hread.taken]
      omega
  · have hlate : ¬Late env base (frame.junk.length + 4 * copy) := by
      intro hlate
      rw [Late, hcarries.inTime] at hlate
      cases hlate.2
    rintro ret after (⟨-, hnothing | hgivesUp⟩ | ⟨-, hgoesOn | hgoesOn⟩)
    · exact hnothing.2 _ _ hreaches
    · obtain ⟨-, base', position, hreaches', hfails⟩ := hgivesUp
      obtain ⟨rfl, rfl⟩ := hreaches.unique hreaches'
      obtain ⟨copies, hcopies, hshort⟩ := hfails.resolve_left hlate
      have hlt := (hcarries.copies_iff hcopy).mp hcopies
      have hsome := delivers_of_le hcarries.delivered
        (by omega : frame.junk.length + 4 * copy + 8 + 4 * copies ≤ _)
      have hmore := delivers_of_le hcarries.delivered
        (by omega : frame.junk.length + 4 * copy + 16 + 4 * copies ≤ _)
      rw [hsome, hmore] at hshort
      rcases hshort with hshort | ⟨-, hshort⟩
      · cases hshort
      · cases hshort
    · have hle := hgoesOn.2 _ _ hreaches
      omega
    · obtain ⟨base', position, hreaches', -, hcopies, -⟩ := hgoesOn
      obtain ⟨rfl, rfl⟩ := hreaches.unique hreaches'
      have hlt := (hcarries.copies_iff hcopy).mp hcopies
      omega

/-- An interface that delivers a frame in time. -/
def frameEnv (frame : SyncFrame cfg txSeqNum) : HdrEnv where
  stream := byteAt frame.bytes
  delivered := none
  expired := fun _ => false
  cnysWritten := true

theorem frameEnv_carries (frame : SyncFrame cfg txSeqNum) : Carries (frameEnv frame) frame where
  written := rfl
  stream := fun _ _ => rfl
  delivered := rfl
  inTime := fun _ => rfl

def spiConfig : SyncConfig := ⟨0xABCDDCBA⟩

/-- A frame whose junk and sync words repeat one word of the stream. -/
def repeatingFrame : SyncFrame spiConfig 0 where
  junk := [0xAB]
  sync := [0xBC, 0xDC, 0xCD, 0xAB]
  header := [0x01, 0x02, 0x08, 0x00, 0x05, 0x06, 0x07, 0x08, 0x09, 0x0A, 0x0B, 0x0C]
  copies := 2
  sync_length := rfl
  header_length := rfl
  copies_pos := by decide
  sync_matches := by decide
  header_unmatched := by decide
  header_begin := by decide
  junk_unmatched := by decide

theorem completes_repeatingFrame :
    ∃ rounds, ∀ fuel ≥ rounds,
      Completes (slDrvRxHdrRead spiConfig (frameEnv repeatingFrame) fuel) (start (fun _ => 0) 0)
        fun _ after =>
          (∀ offset < respHdrSize, after.pBuf offset = byteAt repeatingFrame.header offset) ∧
            after.taken = 21 ∧ after.txSeqNum = 1 :=
  completes_slDrvRxHdrRead repeatingFrame (frameEnv_carries repeatingFrame) _

end Results

section Return

variable {cfg : SyncConfig} {env : HdrEnv} {txSeqNum : Byte}

/-- The loops of the function end after finitely many rounds. -/
def Returns (cfg : SyncConfig) (env : HdrEnv) (pBuf : ℕ → Byte) (txSeqNum : Byte) : Prop :=
  ∃ rounds, ∀ fuel ≥ rounds, ∀ after,
    (slDrvRxHdrRead cfg env fuel).run (start pBuf txSeqNum) ≠ .error .noReturn after

/-- The function finds the pattern in time, and copies of the pattern follow without end. -/
def CopiesForever (cfg : SyncConfig) (env : HdrEnv) (txSeqNum : Byte) : Prop :=
  ∃ base position, Reaches cfg env txSeqNum base position ∧ ¬Late env base position ∧
    ∀ copies, Copies cfg env txSeqNum position copies

theorem delivers_of_none (hdelivered : env.delivered = none) (count : ℕ) :
    delivers env count = true := by
  rw [delivers, hdelivered]
  rfl

/-- The loop over doubled patterns does not poll the timeout. -/
theorem CopiesForever.noReturn (hforever : CopiesForever cfg env txSeqNum)
    (hdelivered : env.delivered = none) (pBuf : ℕ → Byte) (fuel : ℕ) :
    Ends (slDrvRxHdrRead cfg env fuel) (start pBuf txSeqNum) (fun _ _ => False)
      fun ret _ => ret = .noReturn := by
  obtain ⟨base, position, hreaches, hlate, hcopies⟩ := hforever
  apply (ends_slDrvRxHdrRead pBuf fuel).mono
  · rintro _ after ⟨base', position', copies, hreaches', -, -, hnot, -⟩
    obtain ⟨rfl, rfl⟩ := hreaches.unique hreaches'
    exact hnot (hcopies (copies + 1) copies (Nat.lt_succ_self copies))
  · rintro ret after (⟨-, hnothing | hgivesUp⟩ | ⟨hret, -⟩)
    · exact absurd hreaches (hnothing.2 _ _)
    · obtain ⟨-, base', position', hreaches', hfails⟩ := hgivesUp
      obtain ⟨rfl, rfl⟩ := hreaches.unique hreaches'
      obtain ⟨copies, -, hshort⟩ := hfails.resolve_left hlate
      rw [delivers_of_none hdelivered, delivers_of_none hdelivered] at hshort
      rcases hshort with hshort | ⟨-, hshort⟩
      · cases hshort
      · cases hshort
    · exact hret

theorem returns_of_not_copiesForever
    (hexpires : ∃ calls, ∀ later ≥ calls, env.expired later = true)
    (hnot : ¬CopiesForever cfg env txSeqNum) (pBuf : ℕ → Byte) :
    Returns cfg env pBuf txSeqNum := by
  obtain ⟨calls, hexpired⟩ := hexpires
  -- the copies behind the pattern that is reached end somewhere
  have hends : ∃ limit, ∀ base position, Reaches cfg env txSeqNum base position →
      ¬Late env base position → ¬Copies cfg env txSeqNum position limit := by
    by_cases hreached : ∃ base position, Reaches cfg env txSeqNum base position ∧
        ¬Late env base position
    · obtain ⟨base, position, hreaches, hlate⟩ := hreached
      have hsome : ∃ limit, ¬Copies cfg env txSeqNum position limit := by
        by_contra hall
        rw [not_exists_not] at hall
        exact hnot ⟨base, position, hreaches, hlate, hall⟩
      obtain ⟨limit, hlimit⟩ := hsome
      refine ⟨limit, fun base' position' hreaches' _ => ?_⟩
      obtain ⟨rfl, rfl⟩ := hreaches.unique hreaches'
      exact hlimit
    · exact ⟨0, fun base position hreaches hlate =>
        absurd ⟨base, position, hreaches, hlate⟩ hreached⟩
  obtain ⟨limit, hlimit⟩ := hends
  refine ⟨calls + 2 + limit, fun fuel hfuel after hrun => ?_⟩
  rcases (ends_slDrvRxHdrRead pBuf fuel).of_error hrun with ⟨hret, -⟩ | ⟨-, hgoesOn | hgoesOn⟩
  · cases hret
  · have hnever := hgoesOn.1 calls (by omega)
    rw [hexpired calls (Nat.le_refl calls)] at hnever
    cases hnever
  · obtain ⟨base, position, hreaches, hlate, hcopies, -⟩ := hgoesOn
    apply hlimit base position hreaches hlate
    exact fun copy hcopy => hcopies copy (by omega)

/-- Once the polls tell of an expired timeout the function returns, unless copies of the sync
pattern follow each other without end. -/
theorem returns_iff_not_copiesForever (hdelivered : env.delivered = none)
    (hexpires : ∃ calls, ∀ later ≥ calls, env.expired later = true) (pBuf : ℕ → Byte) :
    Returns cfg env pBuf txSeqNum ↔ ¬CopiesForever cfg env txSeqNum := by
  constructor
  · rintro ⟨rounds, hreturns⟩ hforever
    obtain ⟨ret, after, hrun, rfl⟩ := (hforever.noReturn hdelivered pBuf rounds).exists_error
    exact hreturns rounds (Nat.le_refl rounds) after hrun
  · intro hnot
    exact returns_of_not_copiesForever hexpires hnot pBuf

theorem returns_frameEnv : Returns spiConfig
      { frameEnv repeatingFrame with expired := fun _ => true } (fun _ => 0) 0 ↔
    ¬CopiesForever spiConfig { frameEnv repeatingFrame with expired := fun _ => true } 0 :=
  returns_iff_not_copiesForever rfl ⟨0, fun _ _ => rfl⟩ _

/-- A word of junk, and then sync words only. -/
def syncFloodEnv : HdrEnv where
  stream := fun index =>
    if index < 4 then 0x11 else byteAt repeatingFrame.sync (index % 4)
  delivered := none
  expired := fun poll => 1 ≤ poll
  cnysWritten := true

theorem copiesForever_syncFlood : CopiesForever spiConfig syncFloodEnv 0 := by
  have hpattern (copy : ℕ) : PatternAt spiConfig syncFloodEnv 0 (4 + 4 * copy) := by
    have hword : word syncFloodEnv.stream (4 + 4 * copy) =
        word (byteAt repeatingFrame.sync) 0 := by
      apply word_congr
      intro index hindex
      have hmod : (4 + 4 * copy + index) % 4 = index := by omega
      rw [syncFloodEnv]
      dsimp only
      rw [if_neg (by omega), hmod, Nat.zero_add]
    rw [PatternAt, hword]
    exact repeatingFrame.sync_matches
  refine ⟨0, 4, ⟨rfl, ⟨fun _ hindex => absurd hindex (Nat.not_lt_zero _), by decide⟩, by decide,
    hpattern 0, ?_, fun poll hpoll => ?_, rfl⟩, ?_, fun _ copy _ => ?_⟩
  · unfold PatternAt
    decide
  · rw [pollsBefore] at hpoll
    omega
  · rw [Late, pollsBefore]
    omega
  · have hposition : 4 + 4 + 4 * copy = 4 + 4 * (copy + 1) := by omega
    rw [hposition]
    exact hpattern (copy + 1)

/-- The polls tell of an expired timeout from the second on, and the function does not
return. -/
theorem not_returns_syncFlood :
    syncFloodEnv.delivered = none ∧ (∀ later ≥ 1, syncFloodEnv.expired later = true) ∧
      ¬Returns spiConfig syncFloodEnv (fun _ => 0) 0 := by
  refine ⟨rfl, fun later hlater => decide_eq_true hlater, ?_⟩
  rintro ⟨rounds, hreturns⟩
  obtain ⟨ret, after, hrun, rfl⟩ :=
    (copiesForever_syncFlood.noReturn rfl (fun _ => 0) rounds).exists_error
  exact hreturns rounds (Nat.le_refl rounds) after hrun

end Return

section Abort

variable {cfg : SyncConfig} {env : HdrEnv} {txSeqNum : Byte}

/-- Whenever the function returns `SL_API_ABORTED`, no window that it compared is a sync
pattern. -/
def AbortsUnmatched (cfg : SyncConfig) (env : HdrEnv) (pBuf : ℕ → Byte) (txSeqNum : Byte) :
    Prop :=
  ∀ fuel after, (slDrvRxHdrRead cfg env fuel).run (start pBuf txSeqNum) = .error .apiAborted after →
    NoneMatched cfg txSeqNum after

/-- The function reaches a pattern in its last pass, or the bytes end before the header does. -/
def PatternLost (cfg : SyncConfig) (env : HdrEnv) (txSeqNum : Byte) : Prop :=
  ∃ base position, Reaches cfg env txSeqNum base position ∧
    (Late env base position ∨ FallsShort cfg env txSeqNum position)

theorem PatternLost.aborts (hlost : PatternLost cfg env txSeqNum) (pBuf : ℕ → Byte) :
    ∃ fuel, Ends (slDrvRxHdrRead cfg env fuel) (start pBuf txSeqNum) (fun _ _ => False)
      fun ret after => ret = .apiAborted ∧ SomeMatched cfg txSeqNum after := by
  obtain ⟨base, position, hreaches, hfails⟩ := hlost
  have hbound : ∃ bound, ∀ more ≥ bound, ¬Late env base position →
      Copies cfg env txSeqNum position more →
        delivers env (position + 8 + 4 * more) = false := by
    rcases hfails with hlate | ⟨copies, -, hshort⟩
    · exact ⟨0, fun _ _ hnot => absurd hlate hnot⟩
    · refine ⟨copies + 1, fun more hmore _ hcopies => ?_⟩
      rcases hshort with hshort | ⟨hnot, -⟩
      · rw [Bool.eq_false_iff] at hshort ⊢
        exact fun hdelivers => hshort (delivers_of_le hdelivers (by omega))
      · exact absurd (hcopies copies hmore) hnot
  obtain ⟨bound, hbound⟩ := hbound
  refine ⟨pollsBefore base position + 1 + bound, (ends_slDrvRxHdrRead pBuf _).mono ?_ ?_⟩
  · rintro _ after ⟨base', position', copies, hreaches', hlate, hcopies, hnot, hread⟩
    obtain ⟨rfl, rfl⟩ := hreaches.unique hreaches'
    obtain ⟨other, hother, hshort⟩ := hfails.resolve_left hlate
    have hdelivered := hread.delivered
    rw [hread.taken] at hdelivered
    have hle : other ≤ copies := by
      by_contra hlt
      exact hnot (hother copies (by omega))
    rcases hshort with hshort | ⟨hnot', hshort⟩
    · rw [delivers_of_le hdelivered (by omega)] at hshort
      cases hshort
    · have heq : other = copies := by
        by_contra hne
        exact hnot' (hcopies other (by omega))
      subst heq
      rw [Nat.add_right_comm, hshort] at hdelivered
      cases hdelivered
  · rintro ret after (⟨hret, hnothing | hgivesUp⟩ | ⟨-, hgoesOn | hgoesOn⟩)
    · exact absurd hreaches (hnothing.2 _ _)
    · exact ⟨hret, hgivesUp.1⟩
    · have hle := hgoesOn.2 _ _ hreaches
      omega
    · obtain ⟨base', position', hreaches', hlate, hcopies, hdelivered⟩ := hgoesOn
      obtain ⟨rfl, rfl⟩ := hreaches.unique hreaches'
      rw [hbound _ (by omega) hlate hcopies] at hdelivered
      cases hdelivered

/-- An abort tells that no pattern was seen, unless the function reaches one in the pass behind
the first expired poll or the bytes end before its header does. -/
theorem abortsUnmatched_iff_not_patternLost (pBuf : ℕ → Byte) :
    AbortsUnmatched cfg env pBuf txSeqNum ↔ ¬PatternLost cfg env txSeqNum := by
  constructor
  · intro hunmatched hlost
    obtain ⟨fuel, hend⟩ := hlost.aborts pBuf
    obtain ⟨ret, after, hrun, rfl, window, hmember, hmatches⟩ := hend.exists_error
    rw [hunmatched fuel after hrun window hmember] at hmatches
    cases hmatches
  · intro hnot fuel after hrun
    rcases (ends_slDrvRxHdrRead pBuf fuel).of_error hrun with ⟨-, hnothing | hgivesUp⟩ | ⟨hret, -⟩
    · exact hnothing.1
    · exact absurd hgivesUp.2 hnot
    · cases hret

/-- Junk and a header, with every poll expired. -/
def lateEnv : HdrEnv where
  stream := byteAt ([0x01, 0x02, 0x03, 0x04, 0x05] ++ repeatingFrame.sync ++ repeatingFrame.header)
  delivered := none
  expired := fun _ => true
  cnysWritten := true

theorem patternLost_late : PatternLost spiConfig lateEnv 0 := by
  refine ⟨0, 5, ⟨rfl, ⟨fun _ hindex => absurd hindex (Nat.not_lt_zero _), by decide⟩, by decide,
    ?_, ?_, fun poll hpoll => ?_, rfl⟩, Or.inl ⟨by decide, rfl⟩⟩
  · rw [PatternAt]
    decide
  · unfold PatternAt
    decide
  · rw [pollsBefore] at hpoll
    omega

/-- The pattern is found in the pass that was granted, and the function aborts. -/
theorem not_abortsUnmatched_late : ¬AbortsUnmatched spiConfig lateEnv (fun _ => 0) 0 := by
  intro hunmatched
  obtain ⟨fuel, hend⟩ := patternLost_late.aborts fun _ => 0
  obtain ⟨ret, after, hrun, rfl, window, hmember, hmatches⟩ := hend.exists_error
  rw [hunmatched fuel after hrun window hmember] at hmatches
  cases hmatches

end Abort

end SimpleLinkHost.RxHdr
