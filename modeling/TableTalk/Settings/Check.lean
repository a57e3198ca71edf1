import TableTalk.Settings.Basic

namespace TableTalk.Settings

def pathParts (path : String) : List String :=
  (path.splitOn "/").filter fun part => part ≠ "" ∧ part ≠ "."

def isAbsolute (path : String) : Bool :=
  path.toList.head? = some '/'

/-- What an absolute path starts with: two slashes stay two, and any other number of them is one. -/
def rootOf (path : String) : String :=
  if (path.toList.takeWhile (· == '/')).length = 2 then "//" else "/"

def resolve (base path : String) : String :=
  let tail := "/".intercalate (pathParts path)
  if isAbsolute path then rootOf path ++ tail
  else if tail.isEmpty then base
  else base ++ "/" ++ tail

def walk (place : List String) (parts : List String) : List String :=
  parts.foldl (fun place part => if part = ".." then place.dropLast else place ++ [part]) place

def shippedPaths : List (List String) :=
  [[], ["config"], ["config", "lexicon.yaml"], ["config", "settings.yaml"]]

def isShipped (path : String) : Bool :=
  !isAbsolute path && shippedPaths.contains (walk [] (pathParts path))

def warnings (s : Settings) (found : Bool) (base : String) : Except SettingsError (List String) := do
  let path ← match s.lexiconPath with
    | .text path => pure path
    | _ => throw .wrongType
  let say (fault : Bool) (text : String) : List String := if fault then ["[WARN]  " ++ text] else []
  return say (!found) "config/settings.yaml not found - using defaults"
    ++ say (!isShipped path) s!"Lexicon not found at {resolve base path} - queries will fail"
    ++ say (s.rowLimit ≤ 0) "query.row_limit must be positive"
    ++ say (s.requestTimeout < s.tableTimeout)
      "query.table_timeout_seconds exceeds request_timeout_seconds"
    ++ say (s.prefixMax < s.prefixMin) "cache.prefix_min_length exceeds prefix_max_length"

def startupLines (warnings : List String) : List String :=
  if warnings.isEmpty then ["  Configuration: [OK] All validated"]
  else ["", "  Configuration Warnings:"] ++ warnings.map ("    " ++ ·)

end TableTalk.Settings
