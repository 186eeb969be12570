import Mathlib.Data.List.Infix

/-!
# Frames that announce their length

A frame is a head and a body, and the head says how long the body is.  If all heads have one
length and differ as letters, a stream of frames can be read in one way only, also if it is cut
somewhere.
-/

namespace SimpleLinkHost.Framing

/-- Heads of one length, and the length of the body that each of them announces. -/
structure Format (Head Letter : Type*) where
  encode : Head → List Letter
  headLen : ℕ
  bodyLen : Head → ℕ
  headLen_pos : 0 < headLen
  length_encode : ∀ head, (encode head).length = headLen
  encode_injective : Function.Injective encode

variable {Head Letter : Type*} {format : Format Head Letter}

/-- A head with a body of the length that it announces. -/
@[ext]
structure Frame (format : Format Head Letter) where
  head : Head
  body : List Letter
  length_body : body.length = format.bodyLen head

def Frame.letters (frame : Frame format) : List Letter := format.encode frame.head ++ frame.body

def stream (frames : List (Frame format)) : List Letter := (frames.map Frame.letters).flatten

@[simp]
theorem stream_nil : stream ([] : List (Frame format)) = [] := rfl

@[simp]
theorem stream_cons (frame : Frame format) (frames : List (Frame format)) :
    stream (frame :: frames) = frame.letters ++ stream frames := rfl

/-- The first frame of a stream is determined, and so is what follows it. -/
theorem letters_append_cancel {frame other : Frame format} {rest more : List Letter}
    (heq : frame.letters ++ rest = other.letters ++ more) : frame = other ∧ rest = more := by
  rw [Frame.letters, Frame.letters, List.append_assoc, List.append_assoc] at heq
  have hheads : (format.encode frame.head).length = (format.encode other.head).length := by
    rw [format.length_encode, format.length_encode]
  obtain ⟨hhead, htail⟩ := List.append_inj heq hheads
  have hhead := format.encode_injective hhead
  have hbodies : frame.body.length = other.body.length := by
    rw [frame.length_body, other.length_body, hhead]
  obtain ⟨hbody, hrest⟩ := List.append_inj htail hbodies
  exact ⟨Frame.ext hhead hbody, hrest⟩

theorem letters_ne_nil (frame : Frame format) : frame.letters ≠ [] := by
  intro hnil
  have hhead := (List.append_eq_nil_iff.mp hnil).1
  have hlength := format.length_encode frame.head
  rw [hhead, List.length_nil] at hlength
  exact (hlength ▸ format.headLen_pos).false

/-- No whole frame stands at the beginning of these letters. -/
def IsCut (format : Format Head Letter) (rest : List Letter) : Prop :=
  ∀ frame : Frame format, ¬frame.letters <+: rest

theorem isCut_nil : IsCut format [] :=
  fun frame hstarts => letters_ne_nil frame (List.prefix_nil.mp hstarts)

/-- A frame that lost its end is cut. -/
theorem isCut_of_prefix {frame : Frame format} {rest : List Letter}
    (hstarts : rest <+: frame.letters) (hne : rest ≠ frame.letters) : IsCut format rest := by
  intro other hother
  obtain ⟨lost, hlost⟩ := hstarts
  obtain ⟨more, hmore⟩ := hother
  have heq : other.letters ++ (more ++ lost) = frame.letters ++ [] := by
    rw [← List.append_assoc, hmore, hlost, List.append_nil]
  obtain ⟨-, hnil⟩ := letters_append_cancel heq
  rw [(List.append_eq_nil_iff.mp hnil).2, List.append_nil] at hlost
  exact hne hlost

/-- A stream of frames can be read in one way only, up to where it is cut. -/
theorem stream_append_inj {frames others : List (Frame format)} {rest more : List Letter}
    (hrest : IsCut format rest) (hmore : IsCut format more)
    (heq : stream frames ++ rest = stream others ++ more) : frames = others ∧ rest = more := by
  induction frames generalizing others with
  | nil =>
      cases others with
      | nil => exact ⟨rfl, heq⟩
      | cons other others =>
          rw [stream_nil, List.nil_append, stream_cons, List.append_assoc] at heq
          exact absurd ⟨_, heq.symm⟩ (hrest other)
  | cons frame frames ih =>
      cases others with
      | nil =>
          rw [stream_nil, List.nil_append, stream_cons, List.append_assoc] at heq
          exact absurd ⟨_, heq⟩ (hmore frame)
      | cons other others =>
          rw [stream_cons, stream_cons, List.append_assoc, List.append_assoc] at heq
          obtain ⟨hframe, htail⟩ := letters_append_cancel heq
          obtain ⟨hframes, hcut⟩ := ih htail
          exact ⟨by rw [hframe, hframes], hcut⟩

end SimpleLinkHost.Framing
