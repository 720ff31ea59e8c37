import Stylesheet.Text.Basic

/-!
# Cutting a text into pieces

`cut` cuts a text at every character of a class and leaves those characters out. With a single
separator it is `split`, and `join` puts the separators back: `join_split` says that nothing is
lost, and `split_join` that pieces without the separator are found again. Lines are the pieces
between newlines, each without the carriage return that may end it; words are the pieces between
white space that are not empty.
-/
namespace Stylesheet.Text

/-- Put one character in front of the first piece. -/
def consFirst (c : Char) : List Text → List Text
  | [] => [[c]]
  | piece :: pieces => (c :: piece) :: pieces

/-- The pieces of a text between the characters of a class; a text without any is its own single
piece. -/
def cut (stops : Char → Bool) (text : Text) : List Text :=
  text.foldr (fun c pieces => if stops c then [] :: pieces else consFirst c pieces) [[]]

@[simp] theorem cut_nil (stops : Char → Bool) : cut stops [] = [[]] := rfl

theorem cut_cons (stops : Char → Bool) (c : Char) (text : Text) :
    cut stops (c :: text) =
      if stops c then [] :: cut stops text else consFirst c (cut stops text) := rfl

/-- There is always a piece. -/
theorem cut_ne_nil (stops : Char → Bool) (text : Text) : cut stops text ≠ [] := by
  cases text with
  | nil => simp
  | cons c text =>
    rw [cut_cons]
    split
    · simp
    · cases cut stops text <;> simp [consFirst]

/-- A text without such characters is one piece. -/
theorem cut_of_forall {stops : Char → Bool} {piece : Text} (free : ∀ c ∈ piece, stops c = false) :
    cut stops piece = [piece] := by
  induction piece with
  | nil => rfl
  | cons c piece ih =>
    obtain ⟨here, later⟩ := List.forall_mem_cons.mp free
    rw [cut_cons, here, ih later]
    rfl

/-- Such a character between two texts parts their pieces. -/
theorem cut_append {stops : Char → Bool} {c : Char} (stop : stops c = true)
    (first second : Text) :
    cut stops (first ++ c :: second) = cut stops first ++ cut stops second := by
  induction first with
  | nil => rw [List.nil_append, cut_cons, if_pos stop]; rfl
  | cons d first ih =>
    obtain ⟨piece, pieces, pieced⟩ := List.exists_cons_of_ne_nil (cut_ne_nil stops first)
    rw [List.cons_append, cut_cons, cut_cons, ih, pieced]
    split <;> rfl

/-- The pieces of a text between the occurrences of a separator. -/
def split (separator : Char) (text : Text) : List Text := cut (· == separator) text

/-- There is always a piece. -/
theorem split_ne_nil (separator : Char) (text : Text) : split separator text ≠ [] :=
  cut_ne_nil _ text

/-- The pieces one after the other, with the separator between neighbours. -/
def join (separator : Char) : List Text → Text
  | [] => []
  | [piece] => piece
  | piece :: pieces => piece ++ separator :: join separator pieces

/-- Joining the pieces gives the text back. -/
theorem join_split (separator : Char) (text : Text) :
    join separator (split separator text) = text := by
  induction text with
  | nil => rfl
  | cons c text ih =>
    rw [split, cut_cons, ← split]
    obtain ⟨piece, pieces, pieced⟩ := List.exists_cons_of_ne_nil (split_ne_nil separator text)
    rw [pieced] at ih ⊢
    split
    · next same => simp [join, ih, eq_of_beq same]
    · cases pieces <;> simp_all [consFirst, join]

/-- The characters of the pieces are characters of the whole. -/
theorem mem_join {separator c : Char} {pieces : List Text} {piece : Text} (isPiece : piece ∈ pieces)
    (isChar : c ∈ piece) : c ∈ join separator pieces := by
  induction pieces with
  | nil => simp at isPiece
  | cons first pieces ih =>
    cases pieces with
    | nil =>
      obtain rfl : piece = first := List.mem_singleton.mp isPiece
      exact isChar
    | cons second pieces =>
      simp only [join, List.mem_append, List.mem_cons]
      rcases List.mem_cons.mp isPiece with rfl | later
      · exact .inl isChar
      · exact .inr (.inr (ih later))

/-- A character of the whole is a separator or a character of a piece. -/
theorem eq_or_mem_of_mem_join {separator c : Char} {pieces : List Text}
    (isChar : c ∈ join separator pieces) : c = separator ∨ ∃ piece ∈ pieces, c ∈ piece := by
  fun_induction join separator pieces with
  | case1 => simp at isChar
  | case2 piece => exact .inr ⟨piece, List.mem_singleton_self piece, isChar⟩
  | case3 piece pieces _ ih =>
    rcases List.mem_append.mp isChar with here | behind
    · exact .inr ⟨piece, List.mem_cons_self, here⟩
    rcases List.mem_cons.mp behind with same | later
    · exact .inl same
    · obtain same | ⟨other, isPiece, isChar⟩ := ih later
      · exact .inl same
      · exact .inr ⟨other, List.mem_cons_of_mem piece isPiece, isChar⟩

/-- No piece holds a separator. -/
theorem not_mem_of_mem_split {separator : Char} {text piece : Text}
    (isPiece : piece ∈ split separator text) : separator ∉ piece := by
  induction text generalizing piece with
  | nil =>
    obtain rfl : piece = [] := by simpa [split] using isPiece
    simp
  | cons c text ih =>
    rw [split, cut_cons, ← split] at isPiece
    split at isPiece
    · rcases List.mem_cons.mp isPiece with rfl | later
      · simp
      · exact ih later
    · next other =>
      obtain ⟨first, pieces, pieced⟩ := List.exists_cons_of_ne_nil (split_ne_nil separator text)
      rw [pieced] at isPiece ih
      have differs : c ≠ separator := by simpa using other
      rcases List.mem_cons.mp isPiece with rfl | later
      · have absent := ih List.mem_cons_self
        simp [differs.symm, absent]
      · exact ih (List.mem_cons_of_mem first later)

/-- A text without the separator is one piece. -/
theorem split_of_not_mem {separator : Char} {piece : Text} (absent : separator ∉ piece) :
    split separator piece = [piece] :=
  cut_of_forall fun _ isChar => beq_false_of_ne fun same => absent (same ▸ isChar)

/-- A separator between two texts parts their pieces. -/
theorem split_append (separator : Char) (first second : Text) :
    split separator (first ++ separator :: second) =
      split separator first ++ split separator second := by
  refine cut_append ?_ first second
  exact beq_self_eq_true separator

/-- A text up to the first separator is the first piece. -/
theorem split_append_cons {separator : Char} {piece : Text} (absent : separator ∉ piece)
    (text : Text) :
    split separator (piece ++ separator :: text) = piece :: split separator text := by
  rw [split_append, split_of_not_mem absent, List.singleton_append]

/-- Splitting finds the pieces that were joined. -/
theorem split_join {separator : Char} {pieces : List Text} (nonempty : pieces ≠ [])
    (absent : ∀ piece ∈ pieces, separator ∉ piece) :
    split separator (join separator pieces) = pieces := by
  induction pieces with
  | nil => contradiction
  | cons first pieces ih =>
    obtain ⟨here, later⟩ := List.forall_mem_cons.mp absent
    cases pieces with
    | nil => exact split_of_not_mem here
    | cons second pieces =>
      rw [join, split_append_cons here, ih (List.cons_ne_nil second pieces) later]
      simp

/-- A line without the carriage return that ends it, if one does. -/
def chopReturn (line : Text) : Text :=
  if line.getLast? = some '\r' then line.dropLast else line

/-- The lines of a document, without their terminators. An empty document has one empty line. -/
def lines (document : Text) : List Text := (split '\n' document).map chopReturn

/-- The characters of the lines are characters of the document. -/
theorem mem_of_mem_lines {document line : Text} {c : Char} (isLine : line ∈ lines document)
    (isChar : c ∈ line) : c ∈ document := by
  obtain ⟨piece, isPiece, rfl⟩ := List.mem_map.mp isLine
  have inPiece : c ∈ piece := by
    unfold chopReturn at isChar
    split at isChar
    · exact List.dropLast_subset piece isChar
    · exact isChar
  rw [← join_split '\n' document]
  exact mem_join isPiece inPiece

/-- Every document has a line. -/
theorem lines_ne_nil (document : Text) : lines document ≠ [] := by
  simp [lines, split_ne_nil]

/-- The lines of two texts on lines of their own are those of the one and then those of the
other. -/
theorem lines_append (first second : Text) :
    lines (first ++ '\n' :: second) = lines first ++ lines second := by
  rw [lines, split_append, List.map_append, lines, lines]

/-- The words of a text: its pieces between white space that are not empty. -/
def words (text : Text) : List Text := (cut isBlank text).filter (!·.isEmpty)

/-- White space between two texts parts their words. -/
theorem words_append {c : Char} (blank : isBlank c = true) (first second : Text) :
    words (first ++ c :: second) = words first ++ words second := by
  rw [words, cut_append blank, List.filter_append, words, words]

/-- White space behind a text adds no words. -/
theorem words_append_of_blank {blanks : Text} (blank : ∀ c ∈ blanks, isBlank c = true)
    (text : Text) : words (text ++ blanks) = words text := by
  induction blanks generalizing text with
  | nil => rw [List.append_nil]
  | cons c blanks ih =>
    obtain ⟨here, later⟩ := List.forall_mem_cons.mp blank
    have none : words blanks = [] := ih later []
    rw [words_append here, none, List.append_nil]

/-- A text without white space is one word. -/
theorem words_of_forall {word : Text} (nonempty : word ≠ [])
    (black : ∀ c ∈ word, isBlank c = false) : words word = [word] := by
  rw [words, cut_of_forall black]
  simp [nonempty]

end Stylesheet.Text
