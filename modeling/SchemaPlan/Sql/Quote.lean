import SchemaPlan.Text.Quoted

namespace SchemaPlan.Sql

open Text

def nameMark : Char := '\x22'

def stringMark : Char := '\x27'

def quoteName (name : String) : String :=
  Quoted.quote nameMark name

def quoteString (s : String) : String :=
  Quoted.quote stringMark s

def nameList (names : List String) : String :=
  ", ".intercalate (names.map quoteName)

end SchemaPlan.Sql
