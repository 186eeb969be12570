import SimpleLinkHost.Core.ProgramInvariant

/-!
# Scripts of programs

What a program does is often one of a few sequences of acts, whatever it reads on the
way.  A script is such a sequence, and a program follows a list of scripts if each of
its runs that falls through plays one of them, and each that is stopped breaks one.
The scripts of a program are found from those of its parts; what the acts keep, and
what can be tracked along a script, then holds of the program without another look at
it.
-/

namespace SimpleLinkHost.ProgramScript

open CallOutcome ProgramInvariant

universe u

variable {Ret State α β : Type u} {Act Seen : Type*}

/-- The acts of a script lead from one state to another. -/
inductive Plays (acts : Act → State → State → Prop) : List Act → State → State → Prop
  | nil {state : State} : Plays acts [] state state
  | cons {act : Act} {script : List Act} {before middle after : State}
      (hact : acts act before middle) (hscript : Plays acts script middle after) :
      Plays acts (act :: script) before after

/-- The acts of programs: what they do, where they stop, and the returns that come of
such a stop. -/
structure Acting (Ret State : Type u) (Act : Type*) where
  acts : Act → State → State → Prop
  stops : Act → State → Prop
  stopped : Ret → Prop

/-- One of the acts of a script stops. -/
inductive Breaks (acting : Acting Ret State Act) : List Act → State → Prop
  | here {act : Act} {script : List Act} {before : State} (hstops : acting.stops act before) :
      Breaks acting (act :: script) before
  | later {act : Act} {script : List Act} {before middle : State}
      (hact : acting.acts act before middle) (hscript : Breaks acting script middle) :
      Breaks acting (act :: script) before

/-- Wherever the program falls through, it has played one of the scripts; where it is
stopped, one of them breaks. -/
def FollowsFrom (acting : Acting Ret State Act) (before : State) (scripts : List (List Act))
    (program : EStateM Ret State α) : Prop :=
  scripts ≠ [] ∧
    Ends program before (fun _ after => ∃ script ∈ scripts, Plays acting.acts script before after)
      fun ret _ => acting.stopped ret → ∃ script ∈ scripts, Breaks acting script before

def Follows (acting : Acting Ret State Act) (scripts : List (List Act))
    (program : EStateM Ret State α) : Prop :=
  ∀ before, FollowsFrom acting before scripts program

section Scripts

def only (act : Act) : List (List Act) := [[act]]

def perhaps (scripts : List (List Act)) : List (List Act) := [] :: scripts

def andThen (scripts others : List (List Act)) : List (List Act) :=
  scripts.flatMap fun script => others.map fun other => script ++ other

def inOrder : List (List (List Act)) → List (List Act)
  | [] => [[]]
  | scripts :: rest => andThen scripts (inOrder rest)

end Scripts

section Plays

variable {acts : Act → State → State → Prop} {act : Act} {script other : List Act}
variable {before middle after : State}

theorem Plays.single (hact : acts act before after) : Plays acts [act] before after :=
  .cons hact .nil

theorem plays_cons :
    Plays acts (act :: script) before after ↔
      ∃ middle, acts act before middle ∧ Plays acts script middle after := by
  constructor
  · intro hplays
    cases hplays with
    | cons hact hscript => exact ⟨_, hact, hscript⟩
  · intro hsplit
    obtain ⟨_, hact, hscript⟩ := hsplit
    exact .cons hact hscript

theorem Plays.append (hscript : Plays acts script before middle)
    (hother : Plays acts other middle after) : Plays acts (script ++ other) before after := by
  induction hscript with
  | nil => exact hother
  | cons hact _ ih => exact .cons hact (ih hother)

theorem plays_append :
    Plays acts (script ++ other) before after ↔
      ∃ middle, Plays acts script before middle ∧ Plays acts other middle after := by
  constructor
  · intro hplays
    induction script generalizing before with
    | nil => exact ⟨before, .nil, hplays⟩
    | cons act script ih =>
        rw [List.cons_append, plays_cons] at hplays
        obtain ⟨next, hact, hplays⟩ := hplays
        obtain ⟨middle, hscript, hother⟩ := ih hplays
        exact ⟨middle, .cons hact hscript, hother⟩
  · intro hsplit
    obtain ⟨_, hscript, hother⟩ := hsplit
    exact hscript.append hother

/-- What each act of a script keeps, the script keeps. -/
theorem Plays.keeps {inv : State → Prop} (hscript : Plays acts script before after)
    (hkeeps : ∀ act ∈ script, ∀ s s', acts act s s' → inv s → inv s') (hinv : inv before) :
    inv after := by
  induction hscript with
  | nil => exact hinv
  | @cons act _ _ _ _ hact _ ih =>
      apply ih fun other hother => hkeeps other (List.mem_cons_of_mem act hother)
      exact hkeeps act List.mem_cons_self _ _ hact hinv

/-- What is seen of a state can be computed along the script. -/
theorem Plays.tracks {track : Seen → Act → Seen} {sees : Seen → State → Prop} {seen : Seen}
    (hscript : Plays acts script before after)
    (htrack : ∀ seen act s s', acts act s s' → sees seen s → sees (track seen act) s')
    (hsees : sees seen before) : sees (script.foldl track seen) after := by
  induction hscript generalizing seen with
  | nil => exact hsees
  | cons hact _ ih => exact ih (htrack _ _ _ _ hact hsees)

theorem Breaks.append {acting : Acting Ret State Act} (hscript : Breaks acting script before)
    (other : List Act) : Breaks acting (script ++ other) before := by
  induction hscript with
  | here hstops => exact .here hstops
  | later hact _ ih => exact .later hact ih

theorem Plays.breaks {acting : Acting Ret State Act}
    (hscript : Plays acting.acts script before middle) (hother : Breaks acting other middle) :
    Breaks acting (script ++ other) before := by
  induction hscript with
  | nil => exact hother
  | cons hact _ ih => exact .later hact (ih hother)

end Plays

section Follows

variable {acting : Acting Ret State Act} {act : Act}
variable {scripts others : List (List Act)} {rest : List (List (List Act))}
variable {program other : EStateM Ret State α} {inv : State → Prop}

theorem FollowsFrom.mono {before : State} (hprogram : FollowsFrom acting before scripts program)
    (hscripts : scripts ⊆ others) : FollowsFrom acting before others program := by
  constructor
  · intro hnone
    rw [hnone, List.subset_nil] at hscripts
    exact hprogram.1 hscripts
  · apply hprogram.2.mono
    · intro _ after hafter
      obtain ⟨script, hscript, hplays⟩ := hafter
      exact ⟨script, hscripts hscript, hplays⟩
    · intro ret _ hbreaks hstopped
      obtain ⟨script, hscript, hbreaks⟩ := hbreaks hstopped
      exact ⟨script, hscripts hscript, hbreaks⟩

theorem Follows.mono (hprogram : Follows acting scripts program) (hscripts : scripts ⊆ others) :
    Follows acting others program :=
  fun before => (hprogram before).mono hscripts

theorem FollowsFrom.ensures {before : State}
    (hprogram : FollowsFrom acting before scripts program) :
    Ensures program before fun _ after =>
      ∃ script ∈ scripts, Plays acting.acts script before after :=
  hprogram.2.mono (fun _ _ hafter => hafter) fun _ _ _ => trivial

theorem follows_pure {value : α} : Follows acting [[]] (pure value : EStateM Ret State α) :=
  fun _ => ⟨List.cons_ne_nil _ _, [], List.mem_singleton_self [], .nil⟩

/-- A program that is one act. -/
theorem followsFrom_only {before : State}
    (hprogram : Ends program before (fun _ after => acting.acts act before after)
      fun ret _ => acting.stopped ret → acting.stops act before) :
    FollowsFrom acting before (only act) program := by
  refine ⟨List.cons_ne_nil _ _, hprogram.mono ?_ ?_⟩
  · exact fun _ after hact => ⟨[act], List.mem_singleton_self _, .single hact⟩
  · exact fun ret _ hstops hstopped => ⟨[act], List.mem_singleton_self _, .here (hstops hstopped)⟩

theorem follows_only (hprogram : ∀ before,
    Ends program before (fun _ after => acting.acts act before after)
      fun ret _ => acting.stopped ret → acting.stops act before) :
    Follows acting (only act) program :=
  fun before => followsFrom_only (hprogram before)

theorem mem_andThen {script next : List Act} (hscript : script ∈ scripts) (hnext : next ∈ others) :
    script ++ next ∈ andThen scripts others :=
  List.mem_flatMap.mpr ⟨script, hscript, List.mem_map_of_mem hnext⟩

/-- Every script can be continued. -/
theorem exists_mem_andThen {script : List Act} (hscript : script ∈ scripts)
    (hothers : others ≠ []) : ∃ next, script ++ next ∈ andThen scripts others := by
  obtain ⟨next, hnext⟩ := List.exists_mem_of_ne_nil others hothers
  exact ⟨next, mem_andThen hscript hnext⟩

theorem andThen_ne_nil (hscripts : scripts ≠ []) (hothers : others ≠ []) :
    andThen scripts others ≠ [] := by
  obtain ⟨script, hscript⟩ := List.exists_mem_of_ne_nil scripts hscripts
  obtain ⟨next, hnext⟩ := exists_mem_andThen hscript hothers
  exact List.ne_nil_of_mem hnext

theorem FollowsFrom.bind [hvalue : Nonempty α] {before : State} {next : α → EStateM Ret State β}
    (hprogram : FollowsFrom acting before scripts program)
    (hnext : ∀ value, Follows acting others (next value)) :
    FollowsFrom acting before (andThen scripts others) (program >>= next) := by
  have hothers : others ≠ [] := (hnext (Classical.choice hvalue) before).1
  refine ⟨andThen_ne_nil hprogram.1 hothers, ?_⟩
  rw [ends_bind]
  apply hprogram.2.mono
  · intro value middle hmiddle
    obtain ⟨script, hscript, hplays⟩ := hmiddle
    apply (hnext value middle).2.mono
    · intro _ after hafter
      obtain ⟨other, hother, hplays'⟩ := hafter
      exact ⟨script ++ other, mem_andThen hscript hother, hplays.append hplays'⟩
    · intro ret _ hbreaks hstopped
      obtain ⟨other, hother, hbreaks⟩ := hbreaks hstopped
      exact ⟨script ++ other, mem_andThen hscript hother, hplays.breaks hbreaks⟩
  · intro ret _ hbreaks hstopped
    obtain ⟨script, hscript, hbreaks⟩ := hbreaks hstopped
    obtain ⟨other, hother⟩ := exists_mem_andThen hscript hothers
    exact ⟨script ++ other, hother, hbreaks.append other⟩

theorem Follows.bind [Nonempty α] {next : α → EStateM Ret State β}
    (hprogram : Follows acting scripts program)
    (hnext : ∀ value, Follows acting others (next value)) :
    Follows acting (andThen scripts others) (program >>= next) :=
  fun before => (hprogram before).bind hnext

theorem Follows.next [Nonempty α] {next : α → EStateM Ret State β}
    (hprogram : Follows acting scripts program)
    (hnext : ∀ value, Follows acting (inOrder rest) (next value)) :
    Follows acting (inOrder (scripts :: rest)) (program >>= next) :=
  hprogram.bind hnext

theorem Follows.last (hprogram : Follows acting scripts program) :
    Follows acting (inOrder [scripts]) program := by
  apply hprogram.mono
  intro script hscript
  exact List.mem_flatMap.mpr ⟨script, hscript, by simp [inOrder]⟩

/-- What a program returns does not matter to its scripts. -/
theorem Follows.returning [Nonempty α] {next : α → EStateM Ret State β}
    (hprogram : Follows acting scripts program)
    (hnext : ∀ value, Follows acting [[]] (next value)) :
    Follows acting scripts (program >>= next) := by
  apply (hprogram.bind hnext).mono
  simp [andThen]

/-- A program that does nothing but check leaves no trace in the scripts. -/
theorem Follows.skip [Nonempty α] {next : α → EStateM Ret State β}
    (hprogram : Follows acting [[]] program)
    (hnext : ∀ value, Follows acting scripts (next value)) :
    Follows acting scripts (program >>= next) := by
  apply (hprogram.bind hnext).mono
  simp [andThen]

theorem followsFrom_get {before : State} {next : State → EStateM Ret State β}
    (hnext : FollowsFrom acting before scripts (next before)) :
    FollowsFrom acting before scripts (get >>= next) :=
  hnext

/-- What a program reads first does not matter to its scripts. -/
theorem follows_get {next : State → EStateM Ret State β}
    (hnext : ∀ state, Follows acting scripts (next state)) :
    Follows acting scripts (get >>= next) :=
  fun before => followsFrom_get (hnext before before)

/-- An act in front of scripts. -/
theorem FollowsFrom.cons {before : State} (hact : acting.acts act before before)
    (hprogram : FollowsFrom acting before scripts program) :
    FollowsFrom acting before (andThen (only act) scripts) program := by
  refine ⟨andThen_ne_nil (List.cons_ne_nil _ _) hprogram.1, hprogram.2.mono ?_ ?_⟩
  · intro _ after hafter
    obtain ⟨script, hscript, hplays⟩ := hafter
    exact ⟨_, mem_andThen (List.mem_singleton_self _) hscript, .cons hact hplays⟩
  · intro ret _ hbreaks hstopped
    obtain ⟨script, hscript, hbreaks⟩ := hbreaks hstopped
    exact ⟨_, mem_andThen (List.mem_singleton_self _) hscript, .later hact hbreaks⟩

/-- A change of the state in front of a program is an act. -/
theorem FollowsFrom.modify {before : State} {change : State → State}
    (hact : acting.acts act before (change before))
    (hprogram : FollowsFrom acting (change before) scripts program) :
    FollowsFrom acting before (andThen (only act) scripts)
      (modify change >>= fun _ => program) := by
  refine ⟨andThen_ne_nil (List.cons_ne_nil _ _) hprogram.1, ?_⟩
  rw [ends_bind, ends_modify]
  apply hprogram.2.mono
  · intro _ after hafter
    obtain ⟨script, hscript, hplays⟩ := hafter
    exact ⟨_, mem_andThen (List.mem_singleton_self _) hscript, .cons hact hplays⟩
  · intro ret _ hbreaks hstopped
    obtain ⟨script, hscript, hbreaks⟩ := hbreaks hstopped
    exact ⟨_, mem_andThen (List.mem_singleton_self _) hscript, .later hact hbreaks⟩

/-- A test of the state is an act that changes nothing. -/
theorem followsFrom_test {before : State} {passes fails : Act} {cond : Prop} [Decidable cond]
    (hpasses : cond → acting.acts passes before before)
    (hfails : ¬cond → acting.acts fails before before)
    (hprogram : FollowsFrom acting before scripts program)
    (hother : FollowsFrom acting before others other) :
    FollowsFrom acting before (andThen (only passes) scripts ++ andThen (only fails) others)
      (if cond then program else other) := by
  split
  · rename_i hcond
    exact (hprogram.cons (hpasses hcond)).mono (List.subset_append_left _ _)
  · rename_i hcond
    exact (hother.cons (hfails hcond)).mono (List.subset_append_right _ _)

/-- An act that tells whether the value it returns meets a condition. -/
theorem follows_bind_cond {passes fails : Act} (cond : α → Prop)
    {next : α → EStateM Ret State β}
    (hprogram : ∀ before, Ends program before
      (fun value after =>
        (cond value → acting.acts passes before after) ∧
          (¬cond value → acting.acts fails before after))
      fun ret _ => acting.stopped ret → acting.stops passes before)
    (hscripts : scripts ≠ []) (hyes : ∀ value, cond value → Follows acting scripts (next value))
    (hno : ∀ value, ¬cond value → Follows acting others (next value)) :
    Follows acting (andThen (only passes) scripts ++ andThen (only fails) others)
      (program >>= next) := by
  intro before
  have hpasses {script : List Act} (hscript : script ∈ scripts) :
      passes :: script ∈ andThen (only passes) scripts ++ andThen (only fails) others := by
    simp [andThen, only, hscript]
  have hfails {script : List Act} (hscript : script ∈ others) :
      fails :: script ∈ andThen (only passes) scripts ++ andThen (only fails) others := by
    simp [andThen, only, hscript]
  obtain ⟨some, hsome⟩ := List.exists_mem_of_ne_nil scripts hscripts
  refine ⟨List.ne_nil_of_mem (hpasses hsome), ?_⟩
  rw [ends_bind]
  apply (hprogram before).mono
  · intro value middle hmiddle
    by_cases hcond : cond value
    · apply (hyes value hcond middle).2.mono
      · intro _ after hafter
        obtain ⟨script, hscript, hplays⟩ := hafter
        exact ⟨_, hpasses hscript, .cons (hmiddle.1 hcond) hplays⟩
      · intro ret _ hbreaks hstopped
        obtain ⟨script, hscript, hbreaks⟩ := hbreaks hstopped
        exact ⟨_, hpasses hscript, .later (hmiddle.1 hcond) hbreaks⟩
    · apply (hno value hcond middle).2.mono
      · intro _ after hafter
        obtain ⟨script, hscript, hplays⟩ := hafter
        exact ⟨_, hfails hscript, .cons (hmiddle.2 hcond) hplays⟩
      · intro ret _ hbreaks hstopped
        obtain ⟨script, hscript, hbreaks⟩ := hbreaks hstopped
        exact ⟨_, hfails hscript, .later (hmiddle.2 hcond) hbreaks⟩
  · exact fun ret _ hstops hstopped => ⟨_, hpasses hsome, .here (hstops hstopped)⟩

theorem follows_ite {cond : Prop} [Decidable cond] (hprogram : Follows acting scripts program)
    (hother : Follows acting others other) :
    Follows acting (scripts ++ others) (if cond then program else other) := by
  split
  · exact hprogram.mono (List.subset_append_left scripts others)
  · exact hother.mono (List.subset_append_right scripts others)

/-- A program behind a guard does nothing where the guard fails. -/
theorem follows_guard {cond : Prop} [Decidable cond] {value : α} (hnone : [] ∈ scripts)
    (hprogram : Follows acting scripts program) :
    Follows acting scripts (if cond then pure value else program) := by
  split
  · exact follows_pure.mono (List.cons_subset.mpr ⟨hnone, List.nil_subset _⟩)
  · exact hprogram

theorem follows_runIf {cond : Prop} [Decidable cond] {program : EStateM Ret State PUnit}
    (hprogram : Follows acting scripts program) :
    Follows acting (perhaps scripts) (runIf cond program) := by
  rw [runIf]
  split
  · exact hprogram.mono (List.subset_cons_self [] scripts)
  · exact follows_pure.mono (List.cons_subset_cons [] (List.nil_subset scripts))

/-- A check returns from the middle, which is no stop. -/
theorem follows_check {cond : Prop} [Decidable cond] {ret : Ret} (hret : ¬acting.stopped ret) :
    Follows acting [[]] (runIf cond (throw ret) : EStateM Ret State PUnit) := by
  rw [runIf]
  split
  · exact fun _ => ⟨List.cons_ne_nil _ _, fun hstopped => absurd hstopped hret⟩
  · exact follows_pure

/-- What every act keeps, the program keeps. -/
theorem Follows.keeps (hprogram : Follows acting scripts program)
    (hacts : ∀ act s s', acting.acts act s s' → inv s → inv s') : Keeps inv program := by
  intro before hinv
  apply (hprogram before).ensures.mono
  intro _ after hafter
  obtain ⟨script, -, hplays⟩ := hafter
  exact hplays.keeps (fun act _ => hacts act) hinv

end Follows

end SimpleLinkHost.ProgramScript
