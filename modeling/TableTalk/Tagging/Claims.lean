import TableTalk.Entity.Basic
import TableTalk.Calendar.Period

namespace TableTalk

inductive TagFault where
  | calendar (error : CalendarError)
  | numeral
  | directory
deriving Repr, DecidableEq

abbrev Claims := List Span

namespace Claims

def isFree (claims : Claims) (span : Span) : Bool :=
  !claims.any span.overlaps

/-- Goes through candidates. The first one that cannot be built ends the pass: what it took stays taken,
but its entities are lost. -/
def sweep {α : Type} (place : α → Span) (build : α → Except TagFault (Option Entity)) :
    Claims → List α → Claims × Except TagFault (List Entity)
  | claims, [] => (claims, .ok [])
  | claims, item :: rest =>
    if isFree claims (place item) then
      match build item with
      | .error fault => (claims, .error fault)
      | .ok none => sweep place build claims rest
      | .ok (some e) =>
        let (taken, found) := sweep place build (place item :: claims) rest
        (taken, found.map (e :: ·))
    else sweep place build claims rest

end Claims

abbrev Pass := Claims → Claims × Except TagFault (List Entity)

namespace Pass

/-- Runs passes one after the other; a broken pass contributes nothing but what it took. -/
def run : List Pass → Claims → Claims × List Entity
  | [], claims => (claims, [])
  | pass :: rest, claims =>
    let (taken, found) := pass claims
    let (all, later) := run rest taken
    (all, found.toOption.getD [] ++ later)

end Pass

end TableTalk
