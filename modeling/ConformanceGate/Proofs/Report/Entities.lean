import ConformanceGate.Report.Page
import ConformanceGate.Text.Hexadecimal
import Mathlib.Data.List.Basic

/-!
# Reading markup

A reader of markup sees delimiters, and between them texts in which entities stand for characters.
What it makes of a page is the outline of the page: the delimiters, each with the text after it
(`Outline.read`). The outline of pieces one after the other is found piece by piece: markup adds its
own characters to it, and a datum adds itself, whatever it holds (`Outline.Shows.read`).
-/

namespace ConformanceGate

/-! ## Entities -/

namespace Entity

def named? : List Char → Option Char
  | ['a', 'm', 'p'] => some '&'
  | ['l', 't'] => some '<'
  | ['g', 't'] => some '>'
  | ['q', 'u', 'o', 't'] => some '"'
  | '#' :: 'x' :: digits => Text.codedChar? digits
  | _ => none

/-- Reads a text with entities. If an entity has begun, `name` is the part of its name that was
read; what names no character stays as it is. -/
def decodeFrom : Option (List Char) → List Char → List Char
  | none, [] => []
  | none, c :: rest => if c = '&' then decodeFrom (some []) rest else c :: decodeFrom none rest
  | some name, [] => '&' :: name
  | some name, c :: rest =>
    if c = ';' then
      match named? name with
      | some named => named :: decodeFrom none rest
      | none => '&' :: (name ++ ';' :: decodeFrom none rest)
    else if c = '&' then '&' :: (name ++ decodeFrom (some []) rest)
    else decodeFrom (some (name ++ [c])) rest

def decode : List Char → List Char := decodeFrom none

@[simp] theorem decode_nil : decode [] = [] := rfl

theorem decode_cons {c : Char} (h : c ≠ '&') (rest : List Char) :
    decode (c :: rest) = c :: decode rest := if_neg h

/-- Escaping a character is undone by decoding. -/
theorem decode_entity (c : Char) (rest : List Char) :
    decode (Piece.entity c ++ rest) = c :: decode rest := by
  unfold Piece.entity
  split
  case h_8 => exact decode_cons (by assumption) rest
  all_goals rfl

/-- What was written with entities is read as it was, and does not touch what comes after it. -/
theorem decode_flatMap (s rest : List Char) :
    decode (s.flatMap Piece.entity ++ rest) = s ++ decode rest := by
  induction s with
  | nil => rfl
  | cons c s ih => rw [List.flatMap_cons, List.append_assoc, decode_entity, ih, List.cons_append]

/-- No delimiter is left of a character that was escaped. -/
theorem not_delimiter_entity {c d : Char} (h : d ∈ Piece.entity c) :
    d ≠ '<' ∧ d ≠ '>' ∧ d ≠ '"' := by
  unfold Piece.entity at h
  split at h
  case h_8 => simp_all
  all_goals
    simp at h
    grind

end Entity

/-! ## Outlines -/

def isDelimiter (c : Char) : Bool := c == '<' || c == '>' || c == '"'

def delimiters (text : String) : List Char := text.toList.filter isDelimiter

/-- What markup looks like to a reader: the text in front of the first delimiter, and the
delimiters, each with the text up to the next one. -/
structure Outline where
  lead : List Char
  marks : List (Char × List Char)

namespace Outline

variable {c : Char} {rest : List Char} {o : Outline}

def push (c : Char) (o : Outline) : Outline :=
  if isDelimiter c then ⟨[], (c, o.lead) :: o.marks⟩ else ⟨c :: o.lead, o.marks⟩

def put (s : List Char) : Outline → Outline
  | ⟨[], marks⟩ => ⟨s, marks⟩
  | ⟨c :: lead, marks⟩ => ⟨s ++ c :: lead, marks⟩

theorem put_eq (s : List Char) (o : Outline) : put s o = ⟨s ++ o.lead, o.marks⟩ := by
  obtain ⟨_ | ⟨c, lead⟩, marks⟩ := o <;> simp [put]

def decode (o : Outline) : Outline :=
  ⟨Entity.decode o.lead, o.marks.map fun m => (m.1, Entity.decode m.2)⟩

def split (text : List Char) : Outline := text.foldr push ⟨[], []⟩

def read (text : List Char) : Outline := (split text).decode

theorem decode_push (h : c ≠ '&') : (push c o).decode = push c o.decode := by
  unfold push
  split <;> simp [decode, Entity.decode_cons h]

theorem map_fst_marks_push (c : Char) (o : Outline) :
    (push c o).marks.map Prod.fst =
      (if isDelimiter c then [c] else []) ++ o.marks.map Prod.fst := by
  unfold push
  split <;> rfl

@[simp] theorem map_fst_marks_decode (o : Outline) :
    o.decode.marks.map Prod.fst = o.marks.map Prod.fst := by
  simp [decode]

/-- The delimiters of an outline are those of the text. -/
theorem map_fst_marks_read (text : List Char) :
    (read text).marks.map Prod.fst = text.filter isDelimiter := by
  unfold read
  rw [map_fst_marks_decode]
  induction text with
  | nil => rfl
  | cons c rest ih =>
    have next : split (c :: rest) = push c (split rest) := rfl
    rw [next, map_fst_marks_push, ih, List.filter_cons]
    split <;> rfl

theorem foldr_push {s : List Char} (h : ∀ c ∈ s, isDelimiter c = false) :
    s.foldr push o = put s o := by
  induction s with
  | nil => simp [put_eq]
  | cons c s ih =>
    obtain ⟨here, later⟩ := List.forall_mem_cons.mp h
    simp [ih later, push, put_eq, here]

/-! ### Outlines of pieces -/

def putPiece (piece : Piece) (o : Outline) : Outline :=
  match piece with
  | .markup s => s.toList.foldr push o
  | .datum s => put s.toList o

/-- Markup without escapes is read as it stands. -/
theorem read_markup {s : List Char} (h : '&' ∉ s) :
    read (s ++ rest) = s.foldr push (read rest) := by
  induction s with
  | nil => rfl
  | cons c s ih =>
    have here : c ≠ '&' := by grind
    have later : '&' ∉ s := by grind
    rw [List.foldr_cons, ← ih later]
    exact decode_push here

/-- Escaped data are read as the text that they stand for, with no delimiter among them. -/
theorem read_datum (s : List Char) :
    read (s.flatMap Piece.entity ++ rest) = put s (read rest) := by
  have plain : ∀ c ∈ s.flatMap Piece.entity, isDelimiter c = false := by
    intro c hc
    obtain ⟨d, -, hd⟩ := List.mem_flatMap.mp hc
    simp [isDelimiter, Entity.not_delimiter_entity hd]
  unfold read split
  rw [List.foldr_append, foldr_push plain]
  simp [put_eq, decode, Entity.decode_flatMap]

/-- The outline of pieces is put together piece by piece, if all markup stands for itself. -/
theorem read_pieces {pieces : List Piece} (plain : ∀ s, .markup s ∈ pieces → '&' ∉ s.toList) :
    read (pieces.flatMap Piece.toChars) = pieces.foldr putPiece ⟨[], []⟩ := by
  induction pieces with
  | nil => rfl
  | cons piece rest ih =>
    have later := ih fun s hs => plain s (List.mem_cons_of_mem piece hs)
    rw [List.flatMap_cons, List.foldr_cons, ← later]
    cases piece with
    | markup s => exact read_markup (plain s (by simp))
    | datum s => exact read_datum s.toList

/-- The pieces begin with a delimiter, and their outline has these marks, whatever comes after
them. -/
structure Shows (pieces : List Piece) (marks : List (Char × List Char)) : Prop where
  /-- Markup stands for itself. -/
  plain : ∀ s, .markup s ∈ pieces → '&' ∉ s.toList
  marks : ∀ rest, pieces.foldr putPiece ⟨[], rest⟩ = ⟨[], marks ++ rest⟩

theorem Shows.nil : Shows [] [] := ⟨nofun, fun _ => rfl⟩

theorem Shows.append {pieces pieces' : List Piece} {marks marks' : List (Char × List Char)}
    (h : Shows pieces marks) (h' : Shows pieces' marks') :
    Shows (pieces ++ pieces') (marks ++ marks') := by
  refine ⟨fun s hs => ?_, fun rest => ?_⟩
  · exact (List.mem_append.mp hs).elim (h.plain s) (h'.plain s)
  · rw [List.foldr_append, h'.marks, h.marks, List.append_assoc]

theorem Shows.flatMap {α : Type} {items : List α} {pieces : α → List Piece}
    {marks : α → List (Char × List Char)} (h : ∀ a, Shows (pieces a) (marks a)) :
    Shows (items.flatMap pieces) (items.flatMap marks) := by
  induction items with
  | nil => exact .nil
  | cons a items ih => exact (h a).append ih

/-- A reader of the pieces sees their marks. -/
theorem Shows.read {pieces : List Piece} {marks : List (Char × List Char)}
    (h : Shows pieces marks) : read (pieces.flatMap Piece.toChars) = ⟨[], marks⟩ := by
  rw [read_pieces h.plain, h.marks, List.append_nil]

end Outline
end ConformanceGate
