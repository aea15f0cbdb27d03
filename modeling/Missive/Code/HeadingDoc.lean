import Missive.Code.Heading
import Missive.Code.Layout
import Missive.Code.Raw
/-!
# Formatted headings

Imports, documentation and attributes as documents of boxes.

* `ImportTree.doc` -- the names of an import, in braces where there are several;
* `attributeContent` -- what stands behind the path of an attribute;
* `noteText` -- documentation;
* `Heading.doc`, `headingsDoc` -- what stands in front of a definition.
-/

namespace Missive.Code

open Doc

/-- The names of a group, with a comma between them; a line ends behind a name that is a group. -/
def groupItems : List (ImportTree × Doc) → Doc
  | [] => []
  | [(_, item)] => item
  | (tree, item) :: rest =>
    item ++ piece "," ++ (if tree.endsInGroup then hardLine 0 else line 1 0) ++ groupItems rest

/-- A group of imported names.  Braces around a single name are dropped, unless it is the module
itself. -/
def groupDoc (items : List (ImportTree × Doc)) : Doc :=
  match items with
  | [] => piece (openBrace ++ closeBrace)
  | [(tree, item)] => if tree.isSelf then braces item else item
  | _ => braces (groupItems items)
where
  /-- The names in braces, with a comma behind the last one if they take several lines. -/
  braces (names : Doc) : Doc :=
    piece openBrace ++ consistent step (line 0 0 ++ inconsistent 0 names ++ lastComma 0 (-step))
      ++ piece closeBrace

mutual

/-- The names of an import. -/
def ImportTree.doc : ImportTree → Doc
  | name word => piece word
  | renamed word other => piece (word ++ " as " ++ other)
  | all => piece "*"
  | inside word inner => piece (word ++ "::") ++ inner.doc
  | group items => groupDoc (ImportTree.docs items)

/-- The names of several imports. -/
def ImportTree.docs : List ImportTree → List (ImportTree × Doc)
  | [] => []
  | tree :: rest => (tree, tree.doc) :: ImportTree.docs rest

end

/-- What stands in front of the next lexeme of an attribute. -/
inductive Spacing where
  | word
  | mark
  /-- A comma in front of a closing bracket. -/
  | finalComma
  deriving DecidableEq

/-- A blank inside an attribute; the line can end there inside of brackets. -/
def attributeBlank (depth : Nat) : Doc :=
  if depth = 0 then piece " " else line 1 0

/-- Whether lexemes start with a closing bracket. -/
def startsClosing : List Lexeme → Bool
  | .mark c :: _ => c = ')' ∨ c = ']' ∨ c = '}'
  | _ => false

/-- The lexemes behind the path of an attribute, inside so many brackets. -/
def attributeContent (spacing : Spacing) (depth : Nat) : List Lexeme → Doc
  | [] => []
  | .mark c :: rest =>
    if c = '(' then
      piece "(" ++ [.opening true step] ++ line 0 0 ++ attributeContent .mark (depth + 1) rest
    else if c = ')' then
      (if spacing = .finalComma then [] else line 0 (-step)) ++ [.closing] ++ piece ")"
        ++ attributeContent .mark (depth - 1) rest
    else if c = '[' ∨ c = '{' then
      piece (String.singleton c) ++ attributeContent .mark (depth + 1) rest
    else if c = ']' ∨ c = '}' then
      piece (String.singleton c) ++ attributeContent .mark (depth - 1) rest
    else if c = ',' then
      if startsClosing rest then
        lastComma 0 (if rest.head? = some (.mark ')') then -step else 0)
          ++ attributeContent .finalComma depth rest
      else piece "," ++ attributeBlank depth ++ attributeContent .mark depth rest
    else if c = '=' then
      (if spacing = .word then piece " " else []) ++ piece "= " ++ attributeContent .mark depth rest
    else piece (String.singleton c) ++ attributeContent .mark depth rest
  | .colons :: rest => piece "::" ++ attributeContent .mark depth rest
  | .word text :: rest | .literal text :: rest | .note text :: rest =>
    (if spacing = .word then attributeBlank depth else []) ++ piece text
      ++ attributeContent .word depth rest

/-- A text without the spaces at its end. -/
def withoutEndSpaces (text : List Char) : List Char :=
  (text.reverse.dropWhile (· == ' ')).reverse

/-- A text without the spaces at the ends of its lines but the last. -/
def withoutInnerSpaces (text : List Char) : List Char :=
  match (Text.pieces '\n' text).reverse with
  | [] => []
  | last :: earlier => (earlier.reverse.flatMap fun line => withoutEndSpaces line ++ ['\n']) ++ last

/-- Documentation: one line, or a block if it takes several. -/
def noteText (text : String) : String :=
  if text.toList.contains '\n' then
    "/**" ++ String.ofList (withoutInnerSpaces text.toList) ++ "*/"
  else docMark ++ String.ofList (withoutEndSpaces text.toList)

/-- A heading, and the end of its line. -/
def Heading.doc : Heading → Doc
  | note text => piece (noteText text) ++ hardLine 0
  | tag path content =>
    piece ("#[" ++ path) ++ attributeContent .word 0 content ++ piece "]" ++ line 1 0
  | imports visibility rooted tree =>
    piece (visibility ++ "use " ++ (if rooted then "::" else "")) ++ tree.doc ++ piece ";"
      ++ hardLine 0
  | bare text => piece text ++ hardLine 0

/-- Headings as they stand in front of a definition. -/
def headingsDoc (headings? : Option (List Heading)) : Doc :=
  (headings?.getD []).flatMap Heading.doc

end Missive.Code
