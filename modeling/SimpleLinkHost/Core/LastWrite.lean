import Mathlib.Data.List.Basic

/-!
# Flags that the last write decides

Events come one after the other, and some of them write a flag.  What the flag is behind
them all is what the last of its writes has made it, or what it was where none has written.
-/

namespace SimpleLinkHost.LastWrite

variable {Event State : Type*}

/-- The last of the events that writes. -/
def lastWrite (writes : Event → Bool) (events : List Event) : Option Event :=
  events.reverse.find? writes

/-- What the last write makes of a flag that was `initially`. -/
def flagBehind (writes sets : Event → Bool) (events : List Event) (initially : Bool) : Bool :=
  ((lastWrite writes events).map sets).getD initially

variable {writes sets : Event → Bool} {events : List Event} {event : Event} {initially : Bool}

theorem lastWrite_concat :
    lastWrite writes (events ++ [event]) =
      if writes event = true then some event else lastWrite writes events := by
  rw [lastWrite, List.reverse_concat, List.find?_cons]
  cases writes event <;> rfl

theorem flagBehind_concat_of_writes (hwrites : writes event = true) :
    flagBehind writes sets (events ++ [event]) initially = sets event := by
  rw [flagBehind, lastWrite_concat, if_pos hwrites]
  rfl

theorem flagBehind_concat_of_not_writes (hwrites : writes event = false) :
    flagBehind writes sets (events ++ [event]) initially =
      flagBehind writes sets events initially := by
  rw [flagBehind, lastWrite_concat, if_neg (by simp [hwrites])]
  rfl

/-- The flag of a state that each event updates is what the last write has made it. -/
theorem flagBehind_concat (flag : State → Prop) {update : Event → State → State} {state : State}
    (hwrites : writes event = true → (flag (update event state) ↔ sets event = true))
    (hleaves : writes event = false → (flag (update event state) ↔ flag state))
    (hflag : flag state ↔ flagBehind writes sets events initially = true) :
    flag (update event state) ↔ flagBehind writes sets (events ++ [event]) initially = true := by
  cases hwrite : writes event with
  | true => rw [flagBehind_concat_of_writes hwrite, hwrites hwrite]
  | false => rw [flagBehind_concat_of_not_writes hwrite, hleaves hwrite, hflag]

end SimpleLinkHost.LastWrite
