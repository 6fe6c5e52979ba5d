import EpaperLayout.Text.CaseTable

/-!
# Lower case

Lower-casing of whole texts by the rules that hold for every language.  Every
character has its own lower-case form, with two exceptions: the dotted capital I
becomes two characters, and a capital sigma that ends a word becomes the final
sigma.  A sigma *ends a word* when a cased character comes before it and none
comes after it, where ignorable characters in between do not count.
-/

namespace EpaperLayout
namespace Text

/-- Whether the run holds the character. -/
def CaseRun.holds (run : CaseRun) (c : Char) : Bool :=
  run.first ≤ c.toNat && c.toNat ≤ run.last && (c.toNat - run.first) % run.step == 0

/-- The lower-case form of a character that has a single one. -/
def lowerChar (c : Char) : Char :=
  match caseRuns.find? fun run => run.holds c with
  | some run => Char.ofNat (run.image + (c.toNat - run.first))
  | none => c

/-- A character that has a case. -/
def isCased (c : Char) : Bool :=
  inTable casedTable c

/-- A character that does not interrupt a cased word. -/
def isCaseIgnorable (c : Char) : Bool :=
  inTable caseIgnorableTable c

/-- Whether the first character that is not ignorable has a case. -/
def startsCased (cs : List Char) : Bool :=
  match cs.dropWhile isCaseIgnorable with
  | c :: _ => isCased c
  | [] => false

/-- Lower-casing of a text; `before` holds, reversed, the characters before it. -/
def lowercaseAfter (before : List Char) : List Char → List Char
  | [] => []
  | c :: rest =>
    let image :=
      if c = 'Σ' then
        if startsCased before && !startsCased rest then ['ς'] else ['σ']
      else if c = 'İ' then ['i', '\u0307']
      else [lowerChar c]
    image ++ lowercaseAfter (c :: before) rest

/-- The text in lower case. -/
def lowercase (cs : List Char) : List Char :=
  lowercaseAfter [] cs

end Text
end EpaperLayout
