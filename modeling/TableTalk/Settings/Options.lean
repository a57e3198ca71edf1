import TableTalk.Engine
import TableTalk.Settings.Basic

namespace TableTalk

def Settings.cacheOptions (s : Settings) : CacheOptions :=
  { rowLimit := .int s.domainRowLimit, lengths := ⟨s.prefixMin, s.prefixMax⟩ }

def Settings.executionOptions (s : Settings) : ExecutionOptions :=
  { rowLimit := .int s.rowLimit, maxWorkers := s.maxWorkers }

def Engine.ofSettings (s : Settings) (store : Store) (lexicon : Lexicon) (now : Moment) : Engine :=
  .create store lexicon s.cacheOptions s.executionOptions now

end TableTalk
