import TagTemplate.Text.Quoted

namespace TagTemplate.Code

def varAt (name : String) : String := "$_tpl->vars[" ++ name ++ "]"

def var (name : String) : String := varAt (Text.quote name)

def print (code : String) : String := "echo " ++ code ++ ";\n"

def echo (text : String) : String := print (Text.quote text)

def call (function : String) (args : List String) : String :=
  function ++ "(" ++ ", ".intercalate args ++ ")"

def index (value : String) : Option String → String
  | some member => value ++ "[" ++ member ++ "]"
  | none => value

end TagTemplate.Code
