namespace TableTalk

structure Span where
  start : Int
  stop : Int
deriving Repr, DecidableEq, Inhabited

inductive SpanError where
  | negative
  | tooLong
deriving Repr, DecidableEq

def SpanError.message : SpanError → String
  | .negative => "__len__() should return >= 0"
  | .tooLong => "cannot fit 'int' into an index-sized integer"

namespace Span

def maxLength : Int := Int.pow 2 63 - 1

def length (span : Span) : Except SpanError Int :=
  let n := span.stop - span.start
  if n < 0 then .error .negative
  else if maxLength < n then .error .tooLong
  else .ok n

/-- Whether two spans share an offset; an empty span overlaps a span that it lies inside of. -/
def overlaps (a b : Span) : Bool :=
  a.start < b.stop && b.start < a.stop

def le (a b : Span) : Bool :=
  a.start < b.start || (a.start == b.start && a.stop ≤ b.stop)

end Span

end TableTalk
