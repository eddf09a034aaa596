namespace CurlScribe.Shell

def isPlain (c : Char) : Bool := c.isAlphanum || "_@%+=:,./-".toList.contains c

/-- One character inside apostrophes. An apostrophe leaves them and comes between quotation
marks. -/
def quoteChar (c : Char) : List Char := if c = '\'' then "'\"'\"'".toList else [c]

def quoteList (s : List Char) : List Char :=
  if s = [] then ['\'', '\'']
  else if s.all isPlain then s
  else '\'' :: s.flatMap quoteChar ++ ['\'']

def quote (s : String) : String := .ofList (quoteList s.toList)

end CurlScribe.Shell
