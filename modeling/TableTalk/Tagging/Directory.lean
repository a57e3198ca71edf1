import TableTalk.Domain.Cache
import TableTalk.Tagging.Claims

namespace TableTalk

/-- The answers about known names; `version` changes whenever the names do. -/
structure Directory where
  version : Nat
  load : Except TagFault Unit
  multiword : Except TagFault (List (List String × DomainEntry))
  named : String → Except TagFault (List DomainEntry)
  withForm : String → Except TagFault (List DomainEntry)
  near : String → Except TagFault (List (DomainEntry × String))

namespace Directory

def ofCache (c : DomainCache) : Directory :=
  { version := c.version
    load := .ok ()
    multiword := .ok c.multiword
    named := fun key => .ok (c.named key)
    withForm := fun token => .ok (c.withForm token)
    near := fun token => .ok (c.near token DomainCache.defaultNearLength) }

def broken : Directory :=
  { version := 0
    load := .error .directory
    multiword := .error .directory
    named := fun _ => .error .directory
    withForm := fun _ => .error .directory
    near := fun _ => .error .directory }

end Directory

end TableTalk
