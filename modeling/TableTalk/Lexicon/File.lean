import TableTalk.Document.Yaml.Node
import TableTalk.Lexicon.Reading

namespace TableTalk.Lexicon

def ofFile (path : String) (text : Option String) : Reading Lexicon := do
  match text with
  | none => reject (.fileNotFound path)
  | some text =>
    match Yaml.read? text with
    | none => reject (.unreadable path)
    | some document => ofDocument (if document.isEmpty then .mapping [] else document)

end TableTalk.Lexicon
