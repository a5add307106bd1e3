import Rollup.Text.Bytes
import Rollup.ArrayLiteral.Basic

/-!
The grammar of array literals, character by character. Bare text runs up to the next quote, comma
or closing brace. A quote drops the bare text before it and opens a body that runs to the first
quote which is not the second character of a backslash pair; after it must come a comma, a closing
brace or the end. Whatever follows a closing brace is not read, and the brace itself may be missing.
-/

namespace Rollup.ArrayLiteral.Grammar

open Rollup.Text

/-- Whether a character goes on with bare text. -/
def isBare (c : Char) : Bool := c != '"' && c != ',' && c != '\x7d'

/-- The text up to the closing quote and the text after it, if there is a closing quote. -/
def body : List Char → Option (List Char × List Char)
  | [] => none
  | '"' :: rest => some ([], rest)
  | '\\' :: c :: rest => (body rest).map fun (q, after) => ('\\' :: c :: q, after)
  | c :: rest => (body rest).map fun (q, after) => (c :: q, after)

theorem exists_of_map_body {text q after : List Char} (read : List Char)
    (h : (body text).map (fun (q, after) => (read ++ q, after)) = some (q, after)) :
    ∃ rest, body text = some (rest, after) ∧ q = read ++ rest := by
  obtain ⟨⟨rest, after'⟩, hbody, heq⟩ := Option.map_eq_some_iff.1 h
  cases heq
  exact ⟨rest, hbody, rfl⟩

theorem body_eq_append {text q after : List Char} (h : body text = some (q, after)) :
    text = q ++ '"' :: after := by
  fun_induction body text generalizing q with
  | case1 => cases h
  | case2 rest =>
      cases h
      rfl
  | case3 c rest ih =>
      obtain ⟨q', hbody, rfl⟩ := exists_of_map_body ['\\', c] h
      rw [ih hbody]
      rfl
  | case4 c rest _ _ ih =>
      obtain ⟨q', hbody, rfl⟩ := exists_of_map_body [c] h
      rw [ih hbody]
      rfl

theorem body_length {text q after : List Char} (h : body text = some (q, after)) :
    q.length + after.length < text.length := by
  rw [body_eq_append h, List.length_append, List.length_cons]
  omega

/-- What bare text makes: an absent element if it is empty or the word `NULL`, which is an empty
text to those who take it for one, and else an element without escapes. -/
def bareItem (absence : Absence) (bare : List Char) : Item :=
  if bare = [] ∨ bare = ['N', 'U', 'L', 'L'] then
    match absence with
    | .keep => .absent
    | .collapse => .present "" false
  else .present (String.ofList bare) false

/-- What the body of a quoted element makes: it has escapes if there is a backslash in it. -/
def quotedItem (q : List Char) : Item := .present (String.ofList q) (q.contains '\\')

/-- The readings of a text at byte `offset` of the literal, where an element begins. -/
def elements (absence : Absence) (offset : Nat) (text : List Char) :
    List (Except ArrayFault Item) :=
  let bare := text.takeWhile isBare
  let item := bareItem absence bare
  let opening := offset + width bare
  match h : text.dropWhile isBare with
  | [] => if text = [] then [] else [.ok item]
  | c :: rest =>
    have hlen : rest.length < text.length := by
      have := (List.dropWhile_suffix (l := text) isBare).length_le
      rw [h, List.length_cons] at this
      omega
    if c = ',' then .ok item :: elements absence (opening + 1) rest
    else if c = '\x7d' then [.ok item]
    else
      match hb : body rest with
      | none => [.error (.unterminatedQuote opening)]
      | some (q, after) =>
        have hbody := body_length hb
        match after with
        | [] => [.ok (quotedItem q)]
        | d :: tail =>
          have : tail.length < text.length := by
            rw [List.length_cons] at hbody
            omega
          if d = ',' then
            .ok (quotedItem q) :: elements absence (opening + width q + 3) tail
          else if d = '\x7d' then [.ok (quotedItem q)]
          else [.error (.unexpectedAfterQuote (opening + width q + 2) d)]
termination_by text.length

/-- All that is read of a literal. Empty braces hold no element, and neither do braces around the
word `NULL` if absent elements are collapsed. -/
def readings (literal : String) (absence : Absence) : List (Except ArrayFault Item) :=
  if absence = .collapse ∧ literal = "\x7bNULL\x7d" then []
  else
    match literal.toList with
    | [] => []
    | c :: rest =>
      if c ≠ '\x7b' then [.error .missingOpeningBrace]
      else if rest.head? = some '\x7d' then []
      else elements absence 1 rest

end Rollup.ArrayLiteral.Grammar
