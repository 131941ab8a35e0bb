import SupportAssistant.Text.Backtracking

/-!
# Scanning a text for the matches of a pattern

`findall` and `sub` walk a text from left to right, take the preferred match
at the first position that has one, and go on behind it.  `scan` performs that
walk once and returns the whole text cut into pieces, each either a character
the pattern passed over or a match.  Both operations, and the positions of the
matches, are read off the pieces.

An empty match is taken too.  After one, the search resumes at the same
position but must consume a character there.
-/

namespace SupportAssistant.Text.Scan

open SupportAssistant.Text.Backtracking

/-- A part of a scanned text. -/
inductive Piece where
  | kept (char : Char)
  | hit (word : List Char)
deriving DecidableEq, Repr

/-- The text a piece was cut from. -/
def Piece.source : Piece → List Char
  | .kept char => [char]
  | .hit word => word

/-- What substitution writes for a piece. -/
def Piece.replaced (replacement : List Char) : Piece → List Char
  | .kept char => [char]
  | .hit _ => replacement

/-- The match, when the piece is one. -/
def Piece.word? : Piece → Option (List Char)
  | .kept _ => none
  | .hit word => some word

def source (pieces : List Piece) : List Char :=
  pieces.flatMap Piece.source

def replaced (replacement : List Char) (pieces : List Piece) : List Char :=
  pieces.flatMap (Piece.replaced replacement)

def words (pieces : List Piece) : List (List Char) :=
  pieces.filterMap Piece.word?

/-- A match together with the position it starts at. -/
structure Occurrence where
  start : Nat
  word : List Char
deriving DecidableEq, Repr

def Occurrence.stop (occurrence : Occurrence) : Nat :=
  occurrence.start + occurrence.word.length

/-- The matches among the pieces of a text that begins at `start`. -/
def occurrences : Nat → List Piece → List Occurrence
  | _, [] => []
  | start, .kept _ :: rest => occurrences (start + 1) rest
  | start, .hit word :: rest =>
      ⟨start, word⟩ :: occurrences (start + word.length) rest

/-! ## The walk -/

/-- The empty match at a position, when that is the preferred one. -/
def emptyHits (matcher : Matcher)
    (before : Option Char) (rest : List Char) : List Piece :=
  if (matcher before rest).head? = some 0 then [.hit []] else []

/-- The preferred match at a position that consumes a character. -/
def firstNonempty (matcher : Matcher)
    (before : Option Char) (rest : List Char) : Option Nat :=
  (matcher before rest).find? (0 < ·)

/--
Cut a text into pieces.  The first argument counts the characters that the
last match has still to consume.
-/
def scan (matcher : Matcher) :
    Nat → Option Char → List Char → List Piece
  | 0, before, [] => emptyHits matcher before []
  | _ + 1, _, [] => []
  | 0, before, char :: rest =>
      emptyHits matcher before (char :: rest) ++
        match firstNonempty matcher before (char :: rest) with
        | none => .kept char :: scan matcher 0 (some char) rest
        | some length =>
            .hit ((char :: rest).take length) ::
              scan matcher (length - 1) (some char) rest
  | skip + 1, _, char :: rest => scan matcher skip (some char) rest

/-- Every match in a text, from left to right. -/
def findall (matcher : Matcher) (text : List Char) : List (List Char) :=
  words (scan matcher 0 none text)

/-- The text with every match replaced. -/
def sub (matcher : Matcher) (replacement text : List Char) : List Char :=
  replaced replacement (scan matcher 0 none text)

/-- Every match in a text, with its position. -/
def finditer (matcher : Matcher) (text : List Char) : List Occurrence :=
  occurrences 0 (scan matcher 0 none text)

/-! ## Reading lists of pieces -/

@[simp]
theorem source_nil : source [] = [] := rfl

@[simp]
theorem source_cons (piece : Piece) (pieces : List Piece) :
    source (piece :: pieces) = piece.source ++ source pieces := rfl

@[simp]
theorem source_append (front back : List Piece) :
    source (front ++ back) = source front ++ source back := by
  simp [source]

@[simp]
theorem replaced_nil (replacement : List Char) :
    replaced replacement [] = [] := rfl

@[simp]
theorem replaced_cons
    (replacement : List Char) (piece : Piece) (pieces : List Piece) :
    replaced replacement (piece :: pieces) =
      piece.replaced replacement ++ replaced replacement pieces := rfl

@[simp]
theorem replaced_append
    (replacement : List Char) (front back : List Piece) :
    replaced replacement (front ++ back) =
      replaced replacement front ++ replaced replacement back := by
  simp [replaced]

@[simp]
theorem words_nil : words [] = [] := rfl

@[simp]
theorem words_kept (char : Char) (pieces : List Piece) :
    words (.kept char :: pieces) = words pieces := rfl

@[simp]
theorem words_hit (word : List Char) (pieces : List Piece) :
    words (.hit word :: pieces) = word :: words pieces := rfl

@[simp]
theorem words_append (front back : List Piece) :
    words (front ++ back) = words front ++ words back := by
  simp [words]

@[simp]
theorem words_map_kept (text : List Char) :
    words (text.map .kept) = [] := by
  induction text with
  | nil => rfl
  | cons char text induction => simpa using induction

@[simp]
theorem source_map_kept (text : List Char) :
    source (text.map .kept) = text := by
  induction text with
  | nil => rfl
  | cons char text induction =>
      simpa [Piece.source] using induction

@[simp]
theorem replaced_map_kept (replacement text : List Char) :
    replaced replacement (text.map .kept) = text := by
  induction text with
  | nil => rfl
  | cons char text induction =>
      simpa [Piece.replaced] using induction

@[simp]
theorem occurrences_map_kept
    (start : Nat) (text : List Char) :
    occurrences start (text.map .kept) = [] := by
  induction text generalizing start with
  | nil => rfl
  | cons char text induction => exact induction (start + 1)

/-- Pieces without a match are characters. -/
theorem eq_map_kept
    {pieces : List Piece} (none : words pieces = []) :
    pieces = (source pieces).map .kept := by
  induction pieces with
  | nil => rfl
  | cons piece pieces induction =>
      cases piece with
      | kept char =>
          rw [words_kept] at none
          rw [source_cons, List.map_append, ← induction none]
          rfl
      | hit word => simp at none

theorem map_word_occurrences (start : Nat) (pieces : List Piece) :
    (occurrences start pieces).map Occurrence.word = words pieces := by
  induction pieces generalizing start with
  | nil => rfl
  | cons piece pieces induction =>
      cases piece <;> simp [occurrences, induction]

theorem occurrences_append
    (start : Nat) (front back : List Piece) :
    occurrences start (front ++ back) =
      occurrences start front ++
        occurrences (start + (source front).length) back := by
  induction front generalizing start with
  | nil => simp [occurrences]
  | cons piece front induction =>
      cases piece <;>
        simp [occurrences, induction, Piece.source, Nat.add_assoc,
          Nat.add_comm 1]

/-- A match lies within the text it was found in. -/
theorem occurrence_bounds
    {start : Nat} {pieces : List Piece} {occurrence : Occurrence}
    (found : occurrence ∈ occurrences start pieces) :
    start ≤ occurrence.start ∧
      occurrence.stop ≤ start + (source pieces).length := by
  induction pieces generalizing start with
  | nil => simp [occurrences] at found
  | cons piece pieces induction =>
      cases piece with
      | kept char =>
          have bounds := induction found
          simp only [source_cons, Piece.source, List.length_append,
            List.length_singleton]
          omega
      | hit word =>
          simp only [source_cons, Piece.source, List.length_append]
          rcases List.mem_cons.mp found with here | later
          · subst here
            simp only [Occurrence.stop]
            omega
          · have bounds := induction later
            omega

theorem word_mem_of_occurrence
    {start : Nat} {pieces : List Piece} {occurrence : Occurrence}
    (found : occurrence ∈ occurrences start pieces) :
    occurrence.word ∈ words pieces := by
  rw [← map_word_occurrences start]
  exact List.mem_map_of_mem found

/-- The match stands in the text at the position that is recorded. -/
theorem occurrence_source
    {start : Nat} {pieces : List Piece} {occurrence : Occurrence}
    (found : occurrence ∈ occurrences start pieces) :
    occurrence.word <+: (source pieces).drop (occurrence.start - start) := by
  induction pieces generalizing start with
  | nil => simp [occurrences] at found
  | cons piece pieces induction =>
      cases piece with
      | kept char =>
          have bounds := @occurrence_bounds (start + 1) _ _ found
          have later := induction found
          have offset :
              occurrence.start - start =
                (occurrence.start - (start + 1)) + 1 := by
            omega
          simpa [Piece.source, offset] using later
      | hit word =>
          rcases List.mem_cons.mp found with here | later
          · subst here
            simp [Piece.source]
          · have bounds := occurrence_bounds later
            have prefixed := induction later
            have offset :
                occurrence.start - start =
                  word.length +
                    (occurrence.start - (start + word.length)) := by
              omega
            rw [offset, source_cons, Piece.source, List.drop_length_add_append]
            exact prefixed

/-! ## What the walk preserves -/

theorem source_emptyHits
    (matcher : Matcher) (before : Option Char) (rest : List Char) :
    source (emptyHits matcher before rest) = [] := by
  unfold emptyHits
  split <;> rfl

/-- Scanning loses nothing: the pieces make up the text again. -/
theorem source_scan
    (matcher : Matcher) (skip : Nat)
    (before : Option Char) (rest : List Char) :
    source (scan matcher skip before rest) = rest.drop skip := by
  induction rest generalizing skip before with
  | nil =>
      cases skip with
      | zero => simp [scan, source_emptyHits]
      | succ skip => simp [scan]
  | cons char rest induction =>
      cases skip with
      | succ skip => simp [scan, induction]
      | zero =>
          simp only [scan, source_append, source_emptyHits,
            List.nil_append, List.drop_zero]
          cases consumed : firstNonempty matcher before (char :: rest) with
          | none => simp [Piece.source, induction]
          | some length =>
              have positive : 0 < length := by
                simpa using List.find?_some consumed
              obtain ⟨more, rfl⟩ :=
                Nat.exists_eq_add_of_lt positive
              simp [Piece.source, induction]

/-- Every hit is one of the matches offered where it stands. -/
theorem occurrence_matched
    {matcher : Matcher} {start skip : Nat}
    {before : Option Char} {rest : List Char} {occurrence : Occurrence}
    (found : occurrence ∈ occurrences start (scan matcher skip before rest)) :
    ∃ previous behind, ∃ length ∈ matcher previous behind,
      occurrence.word = behind.take length := by
  have empty : ∀ position previous behind,
      occurrence ∈ occurrences position
          (emptyHits matcher previous behind) →
        0 ∈ matcher previous behind ∧ occurrence.word = [] := by
    intro position previous behind here
    unfold emptyHits at here
    split at here
    · rename_i preferred
      simp only [occurrences, List.mem_singleton] at here
      exact ⟨List.mem_of_head? preferred, by rw [here]⟩
    · simp [occurrences] at here
  induction rest generalizing start skip before with
  | nil =>
      cases skip with
      | zero =>
          obtain ⟨offered, word⟩ := empty _ _ _ found
          exact ⟨before, [], 0, offered, by simp [word]⟩
      | succ skip => simp [scan, occurrences] at found
  | cons char rest induction =>
      cases skip with
      | succ skip => exact induction found
      | zero =>
          rw [scan, occurrences_append] at found
          rcases List.mem_append.mp found with here | later
          · obtain ⟨offered, word⟩ := empty _ _ _ here
            exact ⟨before, char :: rest, 0, offered, by simp [word]⟩
          · cases consumed :
                firstNonempty matcher before (char :: rest) with
            | none =>
                rw [consumed] at later
                exact induction later
            | some length =>
                rw [consumed] at later
                rcases List.mem_cons.mp later with this | behind
                · refine ⟨before, char :: rest, length, ?_, by rw [this]⟩
                  exact List.mem_of_find?_eq_some consumed
                · exact induction behind

/-- A pending match consumes its characters and the walk starts afresh. -/
theorem scan_skip
    (matcher : Matcher) {skip : Nat}
    (before : Option Char) {rest : List Char}
    (within : skip ≤ rest.length) :
    scan matcher skip before rest =
      scan matcher 0 (beforeAfter before rest skip) (rest.drop skip) := by
  induction rest generalizing skip before with
  | nil =>
      obtain rfl : skip = 0 := by simpa using within
      simp
  | cons char rest induction =>
      cases skip with
      | zero => simp
      | succ skip =>
          have withinRest : skip ≤ rest.length := by simpa using within
          simp [scan, induction (some char) withinRest,
            beforeAfter_succ_cons]

/-- The walk looks only at the preferred match and the first nonempty one. -/
theorem scan_congr
    {left right : Matcher}
    (sameEmpty : ∀ before rest,
      emptyHits left before rest = emptyHits right before rest)
    (sameNonempty : ∀ before rest,
      firstNonempty left before rest = firstNonempty right before rest)
    (skip : Nat) (before : Option Char) (rest : List Char) :
    scan left skip before rest = scan right skip before rest := by
  induction rest generalizing skip before with
  | nil => cases skip <;> simp [scan, sameEmpty]
  | cons char rest induction =>
      cases skip with
      | succ skip => simp [scan, induction]
      | zero => simp only [scan, sameEmpty, sameNonempty, induction]

/-! ## Where the words stand -/

theorem infix_of_word
    {pieces : List Piece} {word : List Char} (found : word ∈ words pieces) :
    word <:+: source pieces := by
  rw [← map_word_occurrences 0] at found
  rcases List.mem_map.mp found with ⟨occurrence, isFound, rfl⟩
  have stands := occurrence_source isFound
  exact stands.isInfix.trans (List.drop_suffix _ _).isInfix

/-- A text without a match is left as it is. -/
theorem sub_of_no_match
    {matcher : Matcher} {text : List Char}
    (none : findall matcher text = []) (replacement : List Char) :
    sub matcher replacement text = text := by
  rw [sub, eq_map_kept none, replaced_map_kept, source_scan,
    List.drop_zero]

end SupportAssistant.Text.Scan
