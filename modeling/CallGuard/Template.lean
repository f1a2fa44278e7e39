/-!
# Message templates

A template is a text with places for the name of the reported function.  The places are written
{lit}`%s` or {lit}`%1$s`, and {lit}`%%` stands for a percent sign; every other percent sign stands
for itself.

Main definitions:

- {lit}`Template.fillChars`: a template with a name in its places, over lists of characters.
- {lit}`Template.fill`: the same over texts.
-/

namespace CallGuard.Template

/-- A template with a name in its places, in one pass from left to right. -/
def fillChars (name : List Char) : List Char → List Char
  | [] => []
  | '%' :: '%' :: rest => '%' :: fillChars name rest
  | '%' :: '1' :: '$' :: 's' :: rest => name ++ fillChars name rest
  | '%' :: 's' :: rest => name ++ fillChars name rest
  | c :: rest => c :: fillChars name rest

/-- A template with a name in its places. -/
def fill (template name : String) : String :=
  String.ofList (fillChars name.toList template.toList)

end CallGuard.Template
