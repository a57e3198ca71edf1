import TableTalk.Demo.Arguments
import TableTalk.Demo.Seed

open TableTalk

def main (arguments : List String) : IO UInt32 := do
  match Demo.Arguments.read? {} arguments with
  | none =>
    IO.eprintln Demo.Arguments.usage
    return 2
  | some found =>
    match Demo.seed {} with
    | .error error =>
      IO.eprintln error.message
      return 1
    | .ok _ =>
      for line in Demo.seedReport (found.databasePath {} ".") do
        IO.println line
      return 0
