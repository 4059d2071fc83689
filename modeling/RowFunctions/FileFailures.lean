/-!
# Failures of file access

The ways in which reading or writing a file can fail, with the texts in which
they are reported.  A text that was read may still be refused by the parser it
is meant for.  Parsers come with the data formats, and what they say about a
text is theirs: a report takes it from outside.
-/

namespace RowFunctions

/-- Why a file could not be read or written. -/
inductive FileFailure where
  | notFound
  | notDirectory
  | isDirectory
  | nameTooLong
  | zeroInName
  | notText
  | other (description : String)
deriving DecidableEq

def FileFailure.message : FileFailure → String
  | notFound => "No such file or directory (os error 2)"
  | notDirectory => "Not a directory (os error 20)"
  | isDirectory => "Is a directory (os error 21)"
  | nameTooLong => "File name too long (os error 36)"
  | zeroInName => "file name contained an unexpected NUL byte"
  | notText => "stream did not contain valid UTF-8"
  | other description => description

/-- What the parsers say about the texts that they refuse: those of TOML and YAML
about settings, and the one of JSON about plans and about dictionaries.  A parser
always says the same about the same text. -/
structure ParserDetails where
  toml : String → String
  yaml : String → String
  plan : String → String
  dictionaries : String → String

end RowFunctions
