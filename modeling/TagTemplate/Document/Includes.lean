import TagTemplate.Document.Reading
import TagTemplate.Text.Quoted

namespace TagTemplate

def ArgValue.literal? : ArgValue → Option String
  | .expr (.code text) => Text.unquote text
  | _ => none

def TagArg.literal? : TagArg → Option String
  | .positional value | .named "file" value => value.literal?
  | _ => none

def Node.includes : Node → List String
  | .tag t => if t.name = "include" then t.args.filterMap TagArg.literal? else []
  | _ => []

def Document.includes (content : String) : List String :=
  match Document.read content with
  | .ok nodes => nodes.flatMap Node.includes
  | .error _ => []

end TagTemplate
