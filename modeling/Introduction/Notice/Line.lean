import Introduction.Notice

/-!
# Lines for an operator

A notice as a line of text: the level, the part of the program it comes from, what is said, and the
fields in order. Texts that a notice quotes are written in quotes, where the characters that would
end or break them are escaped.
-/

namespace Introduction

/-- A character inside quotes. -/
def quoteChar (c : Char) : List Char :=
  if c = '"' then ['\\', '"']
  else if c = '\\' then ['\\', '\\']
  else if c = '\n' then ['\\', 'n']
  else if c = '\r' then ['\\', 'r']
  else if c = '\t' then ['\\', 't']
  else if c = Char.ofNat 0 then ['\\', '0']
  else [c]

/-- A text in quotes. -/
def quote (s : String) : String :=
  "\"" ++ String.ofList (s.toList.flatMap quoteChar) ++ "\""

/-- The text of the value of a field. -/
def FieldValue.text : FieldValue → String
  | .plain s => s
  | .quoted s => quote s
  | .flag b => flagText b
  | .count n => toString n

/-- The line of a notice. -/
def Notice.line (n : Notice) : String :=
  n.level.name ++ " " ++ n.origin.path ++ ": " ++ n.text ++
    String.join (n.fields.map fun (name, value) => " " ++ name ++ "=" ++ value.text)

/-- The lines of the notices that are shown to an operator. -/
def Notice.lines (notices : List Notice) : List String :=
  (notices.filter (·.level.isShown)).map Notice.line

end Introduction
