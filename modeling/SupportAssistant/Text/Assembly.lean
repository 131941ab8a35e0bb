import SupportAssistant.Text.Blanking

/-!
# Texts assembled from parts

A text is made of prose and of fields that were filled in.  When no token
reaches across the end of a part, the tokens of the text are those of its
parts.  When some stretches of the text are blanked besides, the tokens left
are those of what remains of the parts.
-/

namespace SupportAssistant.Text.Assembly

open SupportAssistant.Text.Scan
open SupportAssistant.Text.Tokens

/-- A part of an assembled text. -/
inductive Part where
  | prose (text : List Char)
  | field (text : List Char)
deriving DecidableEq, Repr

def Part.text : Part → List Char
  | .prose text => text
  | .field text => text

def assembled (parts : List Part) : List Char :=
  parts.flatMap Part.text

@[simp]
theorem assembled_nil : assembled [] = [] := rfl

@[simp]
theorem assembled_cons (part : Part) (parts : List Part) :
    assembled (part :: parts) = part.text ++ assembled parts := rfl

/-- No token reaches into the text, however much of it is cut off. -/
def Opens (munch : Munch) (tail : List Char) : Prop :=
  ∀ count, Breaks munch (tail.take count)

/--
No token reaches across the end of a part: prose ends with a separator, and
what follows a field opens with a break.
-/
def Framed (munch : Munch) : List Part → Prop
  | [] => True
  | .prose text :: rest =>
      (∀ last, text.getLast? = some last → Separates munch last) ∧
        Framed munch rest
  | .field _ :: rest => Opens munch (assembled rest) ∧ Framed munch rest

/-! ## The tokens of an assembled text -/

/-- A text that ends with a separator keeps its tokens before any other. -/
theorem tokens_append_of_separated
    {munch : Munch} (stable : Stable munch) {left : List Char}
    (separated : ∀ last, left.getLast? = some last → Separates munch last)
    (right : List Char) :
    tokens munch (left ++ right) =
      tokens munch left ++ tokens munch right := by
  rcases List.eq_nil_or_concat' left with rfl | ⟨front, last, rfl⟩
  · simp
  · have separates : Separates munch last :=
      separated last List.getLast?_concat
    rw [List.append_assoc, List.singleton_append,
      tokens_separated stable separates, tokens_separated stable separates,
      tokens_nil, List.append_assoc, List.singleton_append]

theorem tokens_assembled
    {munch : Munch} (stable : Stable munch) {parts : List Part}
    (framed : Framed munch parts) :
    tokens munch (assembled parts) =
      parts.flatMap fun part => tokens munch part.text := by
  induction parts with
  | nil => simp
  | cons part parts induction =>
      rw [assembled_cons, List.flatMap_cons]
      cases part with
      | prose text =>
          rw [← induction framed.2]
          exact tokens_append_of_separated stable framed.1 _
      | field text =>
          rw [← induction framed.2]
          have breaks := framed.1 (assembled parts).length
          rw [List.take_length] at breaks
          exact tokens_breaks stable breaks text

/-! ## The stretches between blanked ones -/

/-- The stretches of a text that no match blanks. -/
def stretches : List Char → List Piece → List (List Char)
  | pending, [] => [pending]
  | pending, .kept char :: rest => stretches (pending ++ [char]) rest
  | pending, .hit _ :: rest => pending :: stretches [] rest

/-- The tokens of a blanked text are those of the stretches left. -/
theorem words_tokens_stretches
    {munch : Munch} (stable : Stable munch)
    {blank : Char} (separates : Separates munch blank)
    (pieces : List Piece) (pending : List Char) :
    words (tokens munch (pending ++ replaced [blank] pieces)) =
      (stretches pending pieces).flatMap fun stretch =>
        words (tokens munch stretch) := by
  induction pieces generalizing pending with
  | nil => simp [stretches]
  | cons piece pieces induction =>
      cases piece with
      | kept char =>
          rw [stretches, ← induction (pending ++ [char])]
          simp [Piece.replaced]
      | hit word =>
          rw [stretches, List.flatMap_cons, ← induction []]
          simp [Piece.replaced, tokens_separated stable separates]

theorem stretches_map_kept
    (pending middle : List Char) (back : List Piece) :
    stretches pending (middle.map .kept ++ back) =
      stretches (pending ++ middle) back := by
  induction middle generalizing pending with
  | nil => simp
  | cons char middle induction =>
      rw [List.map_cons, List.cons_append, stretches, induction,
        List.append_assoc, List.singleton_append]

/-- The first stretch goes on up to the first match. -/
theorem exists_first_stretch (pending : List Char) (back : List Piece) :
    ∃ right, right <+: source back ∧
      pending ++ right ∈ stretches pending back := by
  induction back generalizing pending with
  | nil => exact ⟨[], List.nil_prefix, by simp [stretches]⟩
  | cons piece back induction =>
      cases piece with
      | kept char =>
          rcases induction (pending ++ [char]) with ⟨right, isHead, member⟩
          refine ⟨char :: right, ?_, ?_⟩
          · simpa [Piece.source] using isHead
          · simpa [stretches] using member
      | hit word =>
          exact ⟨[], List.nil_prefix, by simp [stretches]⟩

/-- Characters that no match blanks lie together in one stretch. -/
theorem exists_stretch
    (pending : List Char) (front : List Piece) (middle : List Char)
    (back : List Piece) :
    ∃ left right, left <:+ pending ++ source front ∧
      right <+: source back ∧
        left ++ (middle ++ right) ∈
          stretches pending (front ++ (middle.map .kept ++ back)) := by
  induction front generalizing pending with
  | nil =>
      rcases exists_first_stretch (pending ++ middle) back with
        ⟨right, isHead, member⟩
      refine ⟨pending, right, by simp, isHead, ?_⟩
      rw [List.nil_append, stretches_map_kept, ← List.append_assoc]
      exact member
  | cons piece front induction =>
      cases piece with
      | kept char =>
          rcases induction (pending ++ [char]) with
            ⟨left, right, isTail, isHead, member⟩
          refine ⟨left, right, ?_, isHead, member⟩
          simpa [Piece.source] using isTail
      | hit word =>
          rcases induction [] with ⟨left, right, isTail, isHead, member⟩
          refine ⟨left, right, ?_, isHead, List.mem_cons_of_mem _ member⟩
          rw [List.nil_append] at isTail
          rw [source_cons, ← List.append_assoc]
          exact isTail.trans (List.suffix_append _ _)

/-! ## What remains of the parts -/

/-- So many characters of the part, behind the first ones. -/
def Part.cut (skip count : Nat) : Part → Part
  | .prose text => .prose ((text.drop skip).take count)
  | .field text => .field ((text.drop skip).take count)

@[simp]
theorem Part.text_cut (skip count : Nat) (part : Part) :
    (part.cut skip count).text = (part.text.drop skip).take count := by
  cases part <;> rfl

/-- The parts of a stretch of an assembled text. -/
def slices : List Part → Nat → Nat → List Part
  | [], _, _ => []
  | part :: parts, skip, count =>
      part.cut skip count ::
        slices parts (skip - part.text.length)
          (count - (part.text.length - skip))

/-- The stretches that no match blanks, where they begin and how long. -/
def stretchesAt : Nat → Nat → List Piece → List (Nat × Nat)
  | start, length, [] => [(start, length)]
  | start, length, .kept _ :: rest => stretchesAt start (length + 1) rest
  | start, length, .hit word :: rest =>
      (start, length) :: stretchesAt (start + length + word.length) 0 rest

/-- What is left of the parts, cut at the matches. -/
def remaining (parts : List Part) (pieces : List Piece) : List Part :=
  (stretchesAt 0 0 pieces).flatMap fun stretch =>
    slices parts stretch.1 stretch.2

theorem exists_cut_of_slices
    {parts : List Part} {skip count : Nat} {part : Part}
    (member : part ∈ slices parts skip count) :
    ∃ whole ∈ parts, ∃ skip count, part = whole.cut skip count := by
  induction parts generalizing skip count with
  | nil => simp [slices] at member
  | cons first parts induction =>
      rcases List.mem_cons.mp member with rfl | later
      · exact ⟨first, List.mem_cons_self, skip, count, rfl⟩
      · rcases induction later with ⟨whole, isPart, isCut⟩
        exact ⟨whole, List.mem_cons_of_mem _ isPart, isCut⟩

/-- What remains are cuts of the parts. -/
theorem exists_cut
    {parts : List Part} {pieces : List Piece} {part : Part}
    (member : part ∈ remaining parts pieces) :
    ∃ whole ∈ parts, ∃ skip count, part = whole.cut skip count := by
  rcases List.mem_flatMap.mp member with ⟨stretch, -, isSlice⟩
  exact exists_cut_of_slices isSlice

theorem assembled_slices (parts : List Part) (skip count : Nat) :
    assembled (slices parts skip count) =
      ((assembled parts).drop skip).take count := by
  induction parts generalizing skip count with
  | nil => simp [slices]
  | cons part parts induction =>
      rw [slices, assembled_cons, assembled_cons, induction, Part.text_cut,
        List.drop_append, List.take_append, List.length_drop]

/-- A stretch of an assembled text has the tokens of its parts. -/
theorem tokens_slices
    {munch : Munch} (stable : Stable munch) {parts : List Part}
    (framed : Framed munch parts) (skip count : Nat) :
    tokens munch (((assembled parts).drop skip).take count) =
      (slices parts skip count).flatMap fun part =>
        tokens munch part.text := by
  rw [← assembled_slices]
  induction parts generalizing skip count with
  | nil => simp [slices]
  | cons part parts induction =>
      have framedRest : Framed munch parts := by
        cases part <;> exact framed.2
      have rest := induction framedRest (skip - part.text.length)
        (count - (part.text.length - skip))
      rw [slices, assembled_cons, List.flatMap_cons, ← rest]
      by_cases within : count ≤ part.text.length - skip
      · -- the stretch ends within the part
        have none : assembled (slices parts (skip - part.text.length)
            (count - (part.text.length - skip))) = [] := by
          rw [assembled_slices, Nat.sub_eq_zero_of_le within, List.take_zero]
        rw [none, List.append_nil, tokens_nil, List.append_nil]
      · have whole : (part.cut skip count).text = part.text.drop skip := by
          rw [Part.text_cut, List.take_of_length_le]
          rw [List.length_drop]
          omega
        rw [whole]
        cases part with
        | prose text =>
            apply tokens_append_of_separated stable
            intro last isLast
            apply framed.1
            rcases List.drop_suffix skip text with ⟨front, whole⟩
            rw [← whole, List.getLast?_append]
            have isLast : (text.drop skip).getLast? = some last := isLast
            rw [isLast]
            rfl
        | field text =>
            by_cases behind : skip ≤ text.length
            · apply tokens_breaks stable
              rw [assembled_slices, Part.text, Nat.sub_eq_zero_of_le behind,
                List.drop_zero]
              exact framed.1 _
            · rw [Part.text, List.drop_eq_nil_of_le (by omega)]
              simp

theorem stretches_eq
    (before pending : List Char) (pieces : List Piece) :
    stretches pending pieces =
      (stretchesAt before.length pending.length pieces).map fun stretch =>
        ((before ++ (pending ++ source pieces)).drop stretch.1).take
          stretch.2 := by
  induction pieces generalizing before pending with
  | nil => simp [stretches, stretchesAt]
  | cons piece pieces induction =>
      cases piece with
      | kept char =>
          have step := induction before (pending ++ [char])
          simpa [stretches, stretchesAt, Piece.source] using step
      | hit word =>
          have step := induction (before ++ (pending ++ word)) []
          have length : (before ++ (pending ++ word)).length =
              before.length + pending.length + word.length := by
            simp only [List.length_append]
            omega
          rw [length, List.length_nil] at step
          rw [stretches, stretchesAt, List.map_cons, step]
          congr 1
          · simp
          · simp [Piece.source]

/-- The tokens of a blanked assembled text are those of what remains. -/
theorem words_tokens_remaining
    {munch : Munch} (stable : Stable munch)
    {blank : Char} (separates : Separates munch blank)
    {parts : List Part} (framed : Framed munch parts)
    {pieces : List Piece} (isSource : source pieces = assembled parts) :
    words (tokens munch (replaced [blank] pieces)) =
      (remaining parts pieces).flatMap fun part =>
        words (tokens munch part.text) := by
  have inStretches := words_tokens_stretches stable separates pieces []
  rw [List.nil_append, stretches_eq [] [], List.flatMap_map] at inStretches
  rw [inStretches, remaining, List.flatMap_assoc]
  apply List.flatMap_congr
  intro stretch _
  rw [List.nil_append, List.nil_append, isSource,
    tokens_slices stable framed]
  simp [words, List.filterMap_flatMap]

end SupportAssistant.Text.Assembly
