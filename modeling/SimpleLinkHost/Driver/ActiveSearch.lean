import SimpleLinkHost.Core.CarriedSearch
import SimpleLinkHost.Core.IndexList
import SimpleLinkHost.Driver.CmdOpLocks

/-!
# The search for a waiting object

`_SlDrvFindAndSetActiveObj` goes along the active list with an opcode that loses its family bit
at the first object that has one, and it reads a row of `_SlActionLookupTable` for every object
that does not take the message as its receive, whether there is such a row or not.
-/

namespace SimpleLinkHost.ActiveSearch

open CarriedSearch IndexList RxMsg
open CmdOpLocks (smallRxConfig)
open Pool (PoolCB PoolObj)

variable (cfg : RxConfig)

section Verdict

/-- The object that the search finds. -/
def foundObj : ActiveObj → Option ℕ
  | .recv index => some index
  | .action index _ => some index
  | .notSet | .endless => none

/-- The object has the family bit. -/
def familyBit (obj : PoolObj) : Bool := obj.additionalData &&& cfg.slNetAppFamilyMask ≠ 0

/-- A receive object takes the message, which has the given opcode for it. -/
def takesRecv (obj : PoolObj) (sd : ℕ) (opcode : BitVec 16) : Bool :=
  obj.actionID = cfg.recvId && sd = obj.additionalData && isRecvOpcode cfg opcode

/-- The action is related to this socket, or to none. -/
def socketMatches (obj : PoolObj) (sd : ℕ) : Bool :=
  let objSd := obj.additionalData &&& cfg.slBsdSocketIdMask
  sd = objSd && sd < cfg.slMaxSockets || cfg.slMaxSockets = objSd

/-- The row of the table for an action, if there is one. -/
def tableRow (actionID : ℕ) : Option ActionRow :=
  if cfg.maxSocketEnumIdx ≤ actionID then
    (slActionLookupTable cfg)[actionID - cfg.maxSocketEnumIdx]?
  else none

/-- The opcode with which an object is compared, and those behind it. -/
def opcodeFor (pool : PoolCB) (opcode : BitVec 16) (index : ℕ) : BitVec 16 :=
  familyOpcode cfg opcode (pool.objPool index).additionalData

/-- What one object makes of a message with this opcode, by its own action and its own
additional data. -/
def verdict (pool : PoolCB) (sd : ℕ) (opcode : BitVec 16) (index : ℕ) : Option ActiveObj :=
  let obj := pool.objPool index
  let opcode := opcodeFor cfg pool opcode index
  if takesRecv cfg obj sd opcode then some (.recv index)
  else
    (tableRow cfg obj.actionID).bind fun row =>
      if row.actionAsyncOpcode = opcode && socketMatches cfg obj sd then
        some (.action index row.asyncEventHandler)
      else none

/-- The rows that the loop of `_SlDrvFindAndSetActiveObj` reads, with the same counts as
`findActiveObj`. -/
def rowsRead (pool : PoolCB) (sd : ℕ) : ℕ → ℕ → BitVec 16 → List ℤ
  | 0, _, _ => []
  | steps + 1, index, opcode =>
      if cfg.maxConcurrentActions ≤ index then []
      else
        let obj := pool.objPool index
        let opcode := opcodeFor cfg pool opcode index
        if takesRecv cfg obj sd opcode then []
        else
          ((obj.actionID : ℤ) - cfg.maxSocketEnumIdx) ::
            if actionMatches cfg pool opcode sd index then []
            else rowsRead pool sd steps obj.nextIndex opcode

/-- The table has the row. -/
def HasRow (row : ℤ) : Prop := 0 ≤ row ∧ row < (slActionLookupTable cfg).length

instance (row : ℤ) : Decidable (HasRow cfg row) := inferInstanceAs (Decidable (_ ∧ _))

end Verdict

section Property

/-- The search selects the first object of the list that takes the message, and reads only rows
that the table has. -/
structure FindsFirst (pool : PoolCB) (opcode : BitVec 16) (sd : ℕ) (items : List ℕ) : Prop where
  selects : activeObjOf cfg pool opcode sd =
    (items.findSome? (verdict cfg pool sd opcode)).getD .notSet
  rows : ∀ row ∈ rowsRead cfg pool sd (2 * cfg.maxConcurrentActions + 1) pool.activePoolIdx opcode,
    HasRow cfg row

/-- An object that the message reaches has a row of the table, or takes the message as its
receive; and if the family bit of an object in front of it was set, it makes the same of the
opcode without the bit as of the opcode received. -/
def Undisturbed (pool : PoolCB) (opcode : BitVec 16) (sd : ℕ) (items : List ℕ) : Prop :=
  ∀ front index back, items = front ++ index :: back →
    (∀ other ∈ front, verdict cfg pool sd opcode other = none) →
      (takesRecv cfg (pool.objPool index) sd (opcodeFor cfg pool opcode index) = true ∨
        (tableRow cfg (pool.objPool index).actionID).isSome = true) ∧
      ((∃ other ∈ front, familyBit cfg (pool.objPool other) = true) →
        verdict cfg pool sd (opcode &&& ~~~cfg.opcodes.ipv6) index =
          verdict cfg pool sd opcode index)

end Property

section Objects

variable {pool : PoolCB} {sd index other : ℕ} {opcode : BitVec 16}

theorem hasRow_iff (actionID : ℕ) :
    HasRow cfg ((actionID : ℤ) - cfg.maxSocketEnumIdx) ↔ (tableRow cfg actionID).isSome = true := by
  rw [HasRow, tableRow]
  split
  · rw [isSome_getElem?]
    omega
  · rename_i hbelow
    exact iff_of_false (by omega) Bool.false_ne_true

theorem actionRow_of_tableRow {actionID : ℕ} {row : ActionRow}
    (hrow : tableRow cfg actionID = some row) : actionRow cfg actionID = row := by
  rw [tableRow] at hrow
  split at hrow
  · rename_i habove
    rw [actionRow, if_pos habove, hrow, Option.getD_some]
  · cases hrow

theorem foundObj_verdict {found : ActiveObj}
    (hverdict : verdict cfg pool sd opcode index = some found) : foundObj found = some index := by
  rw [verdict] at hverdict
  split at hverdict
  · rw [← Option.some.inj hverdict]
    rfl
  · rw [Option.bind_eq_some_iff] at hverdict
    obtain ⟨row, -, hmatch⟩ := hverdict
    split at hmatch
    · rw [← Option.some.inj hmatch]
      rfl
    · cases hmatch

theorem verdict_eq_recv_iff :
    verdict cfg pool sd opcode index = some (.recv index) ↔
      takesRecv cfg (pool.objPool index) sd (opcodeFor cfg pool opcode index) = true := by
  rw [verdict]
  split
  · rename_i htakes
    exact iff_of_true rfl htakes
  · rename_i htakes
    refine iff_of_false (fun hverdict => ?_) htakes
    rw [Option.bind_eq_some_iff] at hverdict
    obtain ⟨row, -, hmatch⟩ := hverdict
    split at hmatch
    · cases hmatch
    · cases hmatch

/-- The test of the loop, where there is a row for it. -/
theorem verdict_of_tableRow {row : ActionRow}
    (htakes : takesRecv cfg (pool.objPool index) sd (opcodeFor cfg pool opcode index) = false)
    (hrow : tableRow cfg (pool.objPool index).actionID = some row) :
    verdict cfg pool sd opcode index =
      if actionMatches cfg pool (opcodeFor cfg pool opcode index) sd index then
        some (.action index (actionRow cfg (pool.objPool index).actionID).asyncEventHandler)
      else none := by
  rw [verdict]
  simp only [htakes, Bool.false_eq_true, if_false, hrow, Option.bind_some]
  rw [actionMatches, actionRow_of_tableRow cfg hrow]
  rfl

end Objects

section Walk

variable {pool : PoolCB} {sd steps index : ℕ} {opcode : BitVec 16} {items : List ℕ}

/-- The loop reads no row for an object, or one that the table has. -/
def Consults (pool : PoolCB) (sd : ℕ) (opcode : BitVec 16) (index : ℕ) : Prop :=
  takesRecv cfg (pool.objPool index) sd (opcodeFor cfg pool opcode index) = true ∨
    (tableRow cfg (pool.objPool index).actionID).isSome = true

theorem findActiveObj_succ (hindex : index < cfg.maxConcurrentActions) :
    findActiveObj cfg pool sd (steps + 1) index opcode =
      if takesRecv cfg (pool.objPool index) sd (opcodeFor cfg pool opcode index) then .recv index
      else if actionMatches cfg pool (opcodeFor cfg pool opcode index) sd index then
        .action index (actionRow cfg (pool.objPool index).actionID).asyncEventHandler
      else findActiveObj cfg pool sd steps (pool.next index) (opcodeFor cfg pool opcode index) := by
  rw [findActiveObj, if_neg (Nat.not_le.mpr hindex)]
  rfl

theorem rowsRead_succ (hindex : index < cfg.maxConcurrentActions) :
    rowsRead cfg pool sd (steps + 1) index opcode =
      if takesRecv cfg (pool.objPool index) sd (opcodeFor cfg pool opcode index) then []
      else
        (((pool.objPool index).actionID : ℤ) - cfg.maxSocketEnumIdx) ::
          if actionMatches cfg pool (opcodeFor cfg pool opcode index) sd index then []
          else rowsRead cfg pool sd steps (pool.next index) (opcodeFor cfg pool opcode index) := by
  rw [rowsRead, if_neg (Nat.not_le.mpr hindex)]
  rfl

/-- The rows that the loop reads are those of the objects that the search comes to. -/
theorem rows_iff (hlinked : Linked pool.next cfg.maxConcurrentActions index items)
    (hsteps : items.length < steps) :
    (∀ row ∈ rowsRead cfg pool sd steps index opcode, HasRow cfg row) ↔
      OnReached (opcodeFor cfg pool) (verdict cfg pool sd) (Consults cfg pool sd) opcode items := by
  induction items generalizing steps index opcode with
  | nil =>
      refine iff_of_true (fun row hrow => ?_) onReached_nil
      cases steps with
      | zero => exact absurd hrow List.not_mem_nil
      | succ steps =>
          rw [rowsRead, if_pos (Nat.le_of_eq (linked_nil.mp hlinked).symm)] at hrow
          exact absurd hrow List.not_mem_nil
  | cons item rest ih =>
      obtain ⟨rfl, hlt, hrest⟩ := hlinked
      cases steps with
      | zero => exact absurd hsteps (Nat.not_lt_zero _)
      | succ steps =>
          rw [onReached_cons, rowsRead_succ cfg hlt, Consults,
            ← ih hrest (Nat.lt_of_succ_lt_succ hsteps)]
          cases htakes :
              takesRecv cfg (pool.objPool index) sd (opcodeFor cfg pool opcode index) with
          | true =>
              have hverdict := (verdict_eq_recv_iff cfg).mpr htakes
              simp [hverdict]
          | false =>
              rw [if_neg Bool.false_ne_true, List.forall_mem_cons, hasRow_iff]
              cases hrow : tableRow cfg (pool.objPool index).actionID with
              | none => simp
              | some row =>
                  rw [verdict_of_tableRow cfg htakes hrow]
                  cases hmatch :
                      actionMatches cfg pool (opcodeFor cfg pool opcode index) sd index with
                  | true => simp
                  | false => simp

/-- As long as the table has the rows, the loop is a search that carries the opcode along. -/
theorem findActiveObj_eq_search
    (hlinked : Linked pool.next cfg.maxConcurrentActions index items)
    (hsteps : items.length < steps)
    (hreached : OnReached (opcodeFor cfg pool) (verdict cfg pool sd) (Consults cfg pool sd) opcode
      items) :
    findActiveObj cfg pool sd steps index opcode =
      (search (opcodeFor cfg pool) (verdict cfg pool sd) opcode items).getD .notSet := by
  induction items generalizing steps index opcode with
  | nil =>
      cases steps with
      | zero => exact absurd hsteps (Nat.not_lt_zero _)
      | succ steps =>
          rw [findActiveObj, if_pos (Nat.le_of_eq (linked_nil.mp hlinked).symm)]
          rfl
  | cons item rest ih =>
      obtain ⟨rfl, hlt, hrest⟩ := hlinked
      obtain ⟨hconsults, htail⟩ := onReached_cons.mp hreached
      cases steps with
      | zero => exact absurd hsteps (Nat.not_lt_zero _)
      | succ steps =>
          rw [findActiveObj_succ cfg hlt]
          cases htakes :
              takesRecv cfg (pool.objPool index) sd (opcodeFor cfg pool opcode index) with
          | true =>
              rw [if_pos rfl, search_cons_some ((verdict_eq_recv_iff cfg).mpr htakes),
                Option.getD_some]
          | false =>
              rw [if_neg Bool.false_ne_true]
              have hsome := hconsults.resolve_left (by simp [htakes])
              obtain ⟨row, hrow⟩ := Option.isSome_iff_exists.mp hsome
              have hverdict := verdict_of_tableRow cfg htakes hrow
              cases hmatch :
                  actionMatches cfg pool (opcodeFor cfg pool opcode index) sd index with
              | true =>
                  rw [hmatch, if_pos rfl] at hverdict
                  rw [if_pos rfl, search_cons_some hverdict, Option.getD_some]
              | false =>
                  rw [hmatch, if_neg Bool.false_ne_true] at hverdict
                  rw [if_neg Bool.false_ne_true, search_cons_none hverdict]
                  exact ih hrest (Nat.lt_of_succ_lt_succ hsteps) (htail hverdict)

theorem familyOpcode_cleared (additionalData : ℕ) :
    familyOpcode cfg (opcode &&& ~~~cfg.opcodes.ipv6) additionalData =
      opcode &&& ~~~cfg.opcodes.ipv6 := by
  rw [familyOpcode]
  split
  · rw [BitVec.and_assoc, BitVec.and_self]
  · rfl

/-- The opcode behind some objects: without the family bit, if one of them has it. -/
theorem foldl_opcodeFor (front : List ℕ) :
    front.foldl (opcodeFor cfg pool) opcode =
      if front.any fun other => familyBit cfg (pool.objPool other) then
        opcode &&& ~~~cfg.opcodes.ipv6
      else opcode := by
  have hcleared : ∀ front : List ℕ, front.foldl (opcodeFor cfg pool)
      (opcode &&& ~~~cfg.opcodes.ipv6) = opcode &&& ~~~cfg.opcodes.ipv6 := by
    intro front
    induction front with
    | nil => rfl
    | cons first front ih =>
        rw [List.foldl_cons, opcodeFor, familyOpcode_cleared]
        exact ih
  induction front with
  | nil => rfl
  | cons first front ih =>
      rw [List.foldl_cons, List.any_cons, opcodeFor, familyOpcode]
      cases hfamily : familyBit cfg (pool.objPool first) with
      | true =>
          rw [if_pos (of_decide_eq_true hfamily), hcleared, Bool.true_or, if_pos rfl]
      | false =>
          rw [if_neg (of_decide_eq_false hfamily), Bool.false_or]
          exact ih

end Walk

section Result

variable {pool : PoolCB} {sd : ℕ} {opcode : BitVec 16} {items : List ℕ}

/-- What was found tells at which object. -/
theorem verdict_unique {current other : BitVec 16} {index item : ℕ} {found : ActiveObj}
    (hindex : verdict cfg pool sd current index = some found)
    (hitem : verdict cfg pool sd other item = some found) : index = item :=
  Option.some.inj ((foundObj_verdict cfg hindex).symm.trans (foundObj_verdict cfg hitem))

/-- A search that has found something has not ended without an object. -/
theorem eq_of_getD {found found' : Option ActiveObj}
    (hfound : ∀ obj, found = some obj → (foundObj obj).isSome = true)
    (hfound' : ∀ obj, found' = some obj → (foundObj obj).isSome = true)
    (hsame : found.getD .notSet = found'.getD .notSet) : found = found' := by
  cases found with
  | none =>
      cases found' with
      | none => rfl
      | some obj =>
          have hsome := hfound' obj rfl
          rw [← show ActiveObj.notSet = obj from hsame] at hsome
          cases hsome
  | some obj =>
      cases found' with
      | none =>
          have hsome := hfound obj rfl
          rw [show obj = ActiveObj.notSet from hsame] at hsome
          cases hsome
      | some obj' => exact congrArg some hsame

theorem consults_congr {current : BitVec 16} {index : ℕ}
    (hsame : verdict cfg pool sd current index = verdict cfg pool sd opcode index) :
    Consults cfg pool sd current index ↔ Consults cfg pool sd opcode index := by
  rw [Consults, Consults, ← verdict_eq_recv_iff, ← verdict_eq_recv_iff, hsame]

/-- The objects are judged by the opcode that has come to them as by the opcode received. -/
theorem agrees_iff :
    Agrees (opcodeFor cfg pool) (verdict cfg pool sd) (verdict cfg pool sd opcode) opcode items ↔
      ∀ front index back, items = front ++ index :: back →
        (∀ other ∈ front, verdict cfg pool sd opcode other = none) →
        (∃ other ∈ front, familyBit cfg (pool.objPool other) = true) →
        verdict cfg pool sd (opcode &&& ~~~cfg.opcodes.ipv6) index =
          verdict cfg pool sd opcode index := by
  constructor
  · intro hagrees front index back hsplit hfront hfamily
    have hsame := hagrees front index back hsplit hfront
    rwa [foldl_opcodeFor, if_pos (List.any_eq_true.mpr hfamily)] at hsame
  · intro hall front index back hsplit hfront
    rw [foldl_opcodeFor]
    split
    · rename_i hfamily
      exact hall front index back hsplit hfront (List.any_eq_true.mp hfamily)
    · rfl

/-- The search selects the first object that takes the message, from rows of the table, exactly
if every object that the message reaches has a row and no family bit in front of it matters. -/
theorem findsFirst_iff
    (hlinked : Linked pool.next cfg.maxConcurrentActions pool.activePoolIdx items) :
    FindsFirst cfg pool opcode sd items ↔ Undisturbed cfg pool opcode sd items := by
  have hlength := hlinked.length_le
  have hsteps : items.length < 2 * cfg.maxConcurrentActions + 1 := by omega
  have hrows := @rows_iff cfg pool sd _ _ opcode _ hlinked hsteps
  have hsearch : Agrees (opcodeFor cfg pool) (verdict cfg pool sd) (verdict cfg pool sd opcode)
      opcode items ↔ search (opcodeFor cfg pool) (verdict cfg pool sd) opcode items =
        items.findSome? (verdict cfg pool sd opcode) :=
    (search_eq_findSome?_iff
      (fun _ _ _ _ hindex hitem => verdict_unique cfg hindex hitem) hlinked.nodup).symm
  constructor
  · intro hfinds
    have hreached := hrows.mp hfinds.rows
    have hselects := hfinds.selects
    rw [activeObjOf, findActiveObj_eq_search cfg hlinked hsteps hreached] at hselects
    have hagrees := hsearch.mpr (eq_of_getD
      (fun obj hobj => by
        obtain ⟨current, index, -, hverdict⟩ := exists_of_search hobj
        rw [foundObj_verdict cfg hverdict, Option.isSome_some])
      (fun obj hobj => by
        obtain ⟨index, -, hverdict⟩ := List.exists_of_findSome?_eq_some hobj
        rw [foundObj_verdict cfg hverdict, Option.isSome_some])
      hselects)
    intro front index back hsplit hfront
    have hconsults := (onReached_iff_of_agrees hagrees).mp hreached front index back hsplit hfront
    exact ⟨(consults_congr cfg (hagrees front index back hsplit hfront)).mp hconsults,
      (agrees_iff cfg).mp hagrees front index back hsplit hfront⟩
  · intro hundisturbed
    have hagrees := (agrees_iff cfg).mpr fun front index back hsplit hfront =>
      (hundisturbed front index back hsplit hfront).2
    have hreached := (onReached_iff_of_agrees hagrees).mpr fun front index back hsplit hfront =>
      (consults_congr cfg (hagrees front index back hsplit hfront)).mpr
        (hundisturbed front index back hsplit hfront).1
    constructor
    · rw [activeObjOf, findActiveObj_eq_search cfg hlinked hsteps hreached, hsearch.mp hagrees]
    · exact hrows.mpr hreached

/-- A pool whose active list has two objects with these actions and additional data. -/
def activePool (first second : ℕ × ℕ) : PoolCB :=
  { Pool.slDrvDriverCBInit Pool.smallConfig with
    activePoolIdx := 0
    objPool := fun index =>
      { actionID := if index = 0 then first.1 else second.1
        additionalData := if index = 0 then first.2 else second.2
        nextIndex := if index = 0 then 1 else 4
        pRespArgs := none
        syncObj := false
        syncObjDeletes := 0 } }

theorem linked_activePool (first second : ℕ × ℕ) :
    Linked (activePool first second).next smallRxConfig.maxConcurrentActions
      (activePool first second).activePoolIdx [0, 1] :=
  ⟨rfl, by decide, rfl, by decide, rfl⟩

/-- An accept on an IPv6 socket behind a lookup of an IPv6 address. -/
theorem findsFirst_accept :
    FindsFirst smallRxConfig (activePool (19, 0x90) (16, 0x82)) 0x1083 2 [0, 1] ∧
      Undisturbed smallRxConfig (activePool (19, 0x90) (16, 0x82)) 0x1083 2 [0, 1] := by
  have hfinds : FindsFirst smallRxConfig (activePool (19, 0x90) (16, 0x82)) 0x1083 2 [0, 1] :=
    ⟨by decide, by decide⟩
  exact ⟨hfinds, (findsFirst_iff smallRxConfig (linked_activePool _ _)).mp hfinds⟩

/-- For an accept behind a receive on another socket a row behind the table is read; and behind
that lookup an accept on an IPv4 socket takes the event for an IPv6 one. -/
theorem not_findsFirst_accept :
    ¬FindsFirst smallRxConfig (activePool (26, 1) (16, 2)) 0x1003 2 [0, 1] ∧
      ¬FindsFirst smallRxConfig (activePool (19, 0x90) (16, 2)) 0x1083 2 [0, 1] := by
  constructor
  · intro hfinds
    exact absurd (hfinds.rows 10 (by decide)) (by decide)
  · intro hfinds
    exact absurd hfinds.selects (by decide)

end Result

end SimpleLinkHost.ActiveSearch
