import TableTalk.Settings.Check

namespace TableTalk.Demo

structure Arguments where
  path : Option String := none
deriving Repr, DecidableEq

namespace Arguments

def pathFlag : String := "--db"

def pathInside? (argument : String) : Option String :=
  let start := (pathFlag ++ "=").toList
  if start.isPrefixOf argument.toList then some (String.ofList (argument.toList.drop start.length))
  else none

def read? (found : Arguments) : List String → Option Arguments
  | [] => some found
  | [argument] => (pathInside? argument).map fun path => { found with path := some path }
  | argument :: next :: rest =>
    if argument = pathFlag then read? { found with path := some next } rest
    else match pathInside? argument with
      | some path => read? { found with path := some path } (next :: rest)
      | none => none

def usage : String := "usage: tabletalk [--db DB]"

/-- The path of the database: the one that is named, or the one of the settings below the directory of the
program. An empty path is as good as none. -/
def databasePath (a : Arguments) (s : Settings) (base : String) : String :=
  match a.path.filter fun path => !path.isEmpty with
  | some path => path
  | none => Settings.resolve base s.snapshotPath.shown

end Arguments

end TableTalk.Demo
