/-!
# Console markup

The console reads a tag such as `[bold]` as a style. `Markup.escape` puts a backslash before every tag, so
that the console shows the text as it is.
-/

namespace ContractScan.Text.Markup

/-- The characters that may follow the opening bracket of a tag. -/
def opensTag (c : Char) : Bool :=
  ('a' ≤ c && c ≤ 'z') || c = '#' || c = '/' || c = '@'

/-- A closing bracket comes before the next opening one. -/
def closesTag : List Char → Bool
  | [] => false
  | c :: rest => c = ']' || (c ≠ '[' && closesTag rest)

def startsTag : List Char → Bool
  | '[' :: c :: rest => opensTag c && closesTag rest
  | _ => false

/-- Doubles the backslashes before every tag and puts one more there, in a text that follows `slashes`
backslashes. No tag starts inside another, so each character is looked at once. -/
def escapeTags (slashes : Nat) : List Char → List Char
  | [] => []
  | c :: rest =>
    if c = '\\' then c :: escapeTags (slashes + 1) rest
    else if startsTag (c :: rest) then
      List.replicate (slashes + 1) '\\' ++ c :: escapeTags 0 rest
    else c :: escapeTags 0 rest

/-- A text that ends in exactly one backslash gets a second one: alone it would escape what follows. -/
def closeBackslash (text : List Char) : List Char :=
  match text.reverse with
  | '\\' :: '\\' :: _ => text
  | '\\' :: _ => text ++ ['\\']
  | _ => text

/-- Markup that the console shows as `text`. -/
def escape (text : String) : String :=
  String.ofList (closeBackslash (escapeTags 0 text.toList))

end ContractScan.Text.Markup
