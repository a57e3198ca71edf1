import TableTalk.Assoc

namespace TableTalk.Assoc

variable {α β : Type} [DecidableEq α]

theorem get?_put (key other : α) (value : β) (entries : List (α × β)) :
    get? other (put key value entries) = if other = key then some value else get? other entries := by
  induction entries with
  | nil =>
    by_cases same : other = key
    · simp [put, get?, same]
    · have apart : ¬ key = other := fun here => same here.symm
      simp [put, get?, same, apart]
  | cons entry rest ih =>
    obtain ⟨k, v⟩ := entry
    rw [put]
    by_cases here : k = key
    · subst here
      by_cases same : k = other
      · simp [get?, same]
      · have apart : ¬ other = k := fun there => same there.symm
        simp [get?, same, apart]
    · rw [if_neg here, get?, get?, ih]
      by_cases same : k = other
      · subst same
        simp [here]
      · simp [same]

theorem mem_of_get? {key : α} {value : β} {entries : List (α × β)}
    (found : get? key entries = some value) : (key, value) ∈ entries := by
  induction entries with
  | nil => cases found
  | cons entry rest ih =>
    rw [get?] at found
    split at found
    · rename_i same
      cases found
      rw [← same]
      exact List.mem_cons_self
    · exact List.mem_cons_of_mem _ (ih found)

theorem has_iff_mem_keys {key : α} {entries : List (α × β)} : has key entries = true ↔ key ∈ keys entries := by
  induction entries with
  | nil => simp [has, get?, keys]
  | cons entry rest ih =>
    unfold has keys at ih
    rw [has, get?, keys, List.map_cons, List.mem_cons, ← ih]
    by_cases same : entry.1 = key
    · simp [same]
    · have apart : ¬ key = entry.1 := fun here => same here.symm
      simp [same, apart]

theorem get?_eq_none_iff {key : α} {entries : List (α × β)} : get? key entries = none ↔ key ∉ keys entries := by
  rw [← has_iff_mem_keys, has, Option.not_isSome_iff_eq_none]

theorem exists_get?_of_mem {key : α} {value : β} {entries : List (α × β)} (member : (key, value) ∈ entries) :
    ∃ first, get? key entries = some first :=
  Option.isSome_iff_exists.mp (has_iff_mem_keys.mpr (List.mem_map_of_mem member))

theorem get?_of_mem {entries : List (α × β)} (distinct : (keys entries).Nodup) {entry : α × β}
    (member : entry ∈ entries) : get? entry.1 entries = some entry.2 := by
  induction entries with
  | nil => cases member
  | cons first rest ih =>
    obtain ⟨new, distinct⟩ := List.nodup_cons.mp distinct
    rw [get?]
    rcases List.mem_cons.mp member with rfl | later
    · exact if_pos rfl
    · have other : first.1 ≠ entry.1 := fun same => new (same ▸ List.mem_map_of_mem later)
      rw [if_neg other, ih distinct later]

theorem flatMap_snd {groups : List (α × List β)} (distinct : (keys groups).Nodup) :
    groups.flatMap Prod.snd = (keys groups).flatMap fun key => (get? key groups).getD [] := by
  rw [keys, List.flatMap_map, List.flatMap_def, List.flatMap_def]
  congr 1
  refine List.map_congr_left fun group member => ?_
  rw [get?_of_mem distinct member, Option.getD_some]

theorem mem_put {key : α} {value : β} {entries : List (α × β)} {entry : α × β}
    (member : entry ∈ put key value entries) : entry = (key, value) ∨ entry ∈ entries := by
  induction entries with
  | nil => exact Or.inl (List.mem_singleton.mp member)
  | cons first rest ih =>
    rw [put] at member
    split at member
    · rcases List.mem_cons.mp member with here | there
      · exact Or.inl here
      · exact Or.inr (List.mem_cons_of_mem _ there)
    · rcases List.mem_cons.mp member with rfl | there
      · exact Or.inr List.mem_cons_self
      · exact (ih there).imp_right (List.mem_cons_of_mem _)

theorem get?_append (key : α) (front back : List (α × β)) :
    get? key (front ++ back) = (get? key front).or (get? key back) := by
  induction front with
  | nil => rfl
  | cons entry rest ih =>
    rw [List.cons_append, get?, get?, ih]
    split <;> rfl

theorem get?_putNew (key other : α) (value : β) (entries : List (α × β)) :
    get? other (putNew key value entries) = (get? other entries).or (get? other [(key, value)]) := by
  unfold putNew
  split
  · rename_i known
    by_cases same : key = other
    · subst same
      obtain ⟨first, found⟩ := Option.isSome_iff_exists.mp known
      rw [found, Option.some_or]
    · rw [get?, if_neg same, get?, Option.or_none]
  · exact get?_append other entries [(key, value)]

theorem get?_foldl_putNew (key : α) (pairs entries : List (α × β)) :
    get? key (pairs.foldl (fun entries pair => putNew pair.1 pair.2 entries) entries) =
      (get? key entries).or (get? key pairs) := by
  induction pairs generalizing entries with
  | nil => rw [List.foldl_nil, get?, Option.or_none]
  | cons pair rest ih => rw [List.foldl_cons, ih, get?_putNew, Option.or_assoc, ← get?_append, List.singleton_append]

theorem get?_foldl_put (key : α) (pairs entries : List (α × β)) :
    get? key (pairs.foldl (fun entries pair => put pair.1 pair.2 entries) entries) =
      (get? key pairs.reverse).or (get? key entries) := by
  induction pairs generalizing entries with
  | nil => rfl
  | cons pair rest ih =>
    have here : get? key (put pair.1 pair.2 entries) = (get? key [pair]).or (get? key entries) := by
      rw [get?_put, get?, get?]
      by_cases same : pair.1 = key
      · rw [if_pos same, if_pos same.symm, Option.some_or]
      · rw [if_neg same, if_neg fun other => same other.symm, Option.none_or]
    rw [List.foldl_cons, ih, here, ← Option.or_assoc, ← get?_append, List.reverse_cons]

theorem get?_map {γ : Type} (f : β → γ) (key : α) (entries : List (α × β)) :
    get? key (entries.map fun entry => (entry.1, f entry.2)) = (get? key entries).map f := by
  induction entries with
  | nil => rfl
  | cons entry rest ih =>
    rw [List.map_cons, get?, get?, ih]
    split <;> rfl

theorem get?_filterMap {γ : Type} (f : β → Option γ) {entries : List (α × β)} (distinct : (keys entries).Nodup)
    (key : α) : get? key (entries.filterMap fun entry => (f entry.2).map fun value => (entry.1, value)) =
      (get? key entries).bind f := by
  induction entries with
  | nil => rfl
  | cons entry rest ih =>
    obtain ⟨new, distinct⟩ := List.nodup_cons.mp distinct
    have later := ih distinct
    rw [get?, List.filterMap_cons]
    by_cases same : entry.1 = key
    · have absent : get? key rest = none := get?_eq_none_iff.mpr (same ▸ new)
      rw [if_pos same]
      cases shown : f entry.2 with
      | none => simp [shown, later, absent]
      | some value => simp [shown, get?, same]
    · rw [if_neg same, ← later]
      cases f entry.2 with
      | none => rfl
      | some value => exact if_neg same

theorem getD_addTo (key other : α) (value : β) (groups : List (α × List β)) :
    (get? other (addTo key value groups)).getD [] =
      (get? other groups).getD [] ++ if key = other then [value] else [] := by
  induction groups with
  | nil =>
    by_cases same : key = other <;> simp [addTo, get?, same]
  | cons group rest ih =>
    obtain ⟨k, members⟩ := group
    rw [addTo]
    by_cases here : k = key
    · subst here
      by_cases same : k = other <;> simp [get?, same]
    · by_cases there : k = other
      · subst there
        have apart : ¬ key = k := fun same => here same.symm
        simp [get?, here, apart]
      · rw [if_neg here, get?, if_neg there, get?, if_neg there, ih]

theorem keys_put (key : α) (value : β) (entries : List (α × β)) :
    keys (put key value entries) = if key ∈ keys entries then keys entries else keys entries ++ [key] := by
  induction entries with
  | nil => rfl
  | cons entry rest ih =>
    obtain ⟨k, v⟩ := entry
    simp only [keys, List.map_cons, List.mem_cons] at ih ⊢
    by_cases here : k = key
    · simp [put, here]
    · have apart : ¬ key = k := fun same => here same.symm
      rw [put, if_neg here, List.map_cons, ih]
      by_cases later : key ∈ rest.map Prod.fst <;> simp [later, apart]

theorem keys_put_nodup {key : α} {value : β} {entries : List (α × β)} (distinct : (keys entries).Nodup) :
    (keys (put key value entries)).Nodup := by
  rw [keys_put]
  split
  · exact distinct
  · rename_i new
    rw [List.nodup_append]
    refine ⟨distinct, by simp, fun a old b single same => new ?_⟩
    rw [List.mem_singleton] at single
    rwa [← single, ← same]

theorem mem_distinct {a : α} {values : List α} : a ∈ distinct values ↔ a ∈ values := by
  induction values with
  | nil => rfl
  | cons b rest ih =>
    simp only [distinct, List.mem_cons, List.mem_filter, decide_eq_true_eq, ih]
    by_cases same : a = b <;> simp [same]

theorem forall_split_append {γ : Type} {P : List γ → γ → Prop} {items : List γ} {last : γ} :
    (∀ front a back, items ++ [last] = front ++ a :: back → P front a) ↔
      (∀ front a back, items = front ++ a :: back → P front a) ∧ P items last := by
  constructor
  · intro all
    refine ⟨fun front a back split => all front a (back ++ [last]) ?_, all items last [] rfl⟩
    rw [split, List.append_assoc, List.cons_append]
  · rintro ⟨earlier, here⟩ front a back split
    rcases List.eq_nil_or_concat back with rfl | ⟨back, other, rfl⟩
    · obtain ⟨rfl, single⟩ := List.append_inj' split rfl
      cases single
      exact here
    · rw [List.concat_eq_append, ← List.cons_append, ← List.append_assoc] at split
      exact earlier front a back (List.append_inj' split rfl).1

theorem distinct_append_singleton (values : List α) (a : α) :
    distinct (values ++ [a]) = if a ∈ values then distinct values else distinct values ++ [a] := by
  induction values with
  | nil => simp [distinct]
  | cons b rest ih =>
    rw [List.cons_append, distinct, ih, distinct]
    by_cases same : a = b
    · subst same
      by_cases member : a ∈ rest <;> simp [member, List.filter_append]
    · by_cases member : a ∈ rest <;> simp [member, same, List.filter_append]

theorem addTo_new (key : α) (value : β) (groups : List (α × List β))
    (absent : key ∉ groups.map Prod.fst) : addTo key value groups = groups ++ [(key, [value])] := by
  induction groups with
  | nil => rfl
  | cons group rest ih =>
    simp only [List.map_cons, List.mem_cons, not_or] at absent
    obtain ⟨other, later⟩ := absent
    rw [addTo, if_neg (fun same => other same.symm), ih later, List.cons_append]

theorem addTo_map (key : α) (value : β) (keys : List α) (members : α → List β) (present : key ∈ keys)
    (different : keys.Nodup) :
    addTo key value (keys.map fun k => (k, members k)) =
      keys.map fun k => (k, if k = key then members k ++ [value] else members k) := by
  induction keys with
  | nil => cases present
  | cons k rest ih =>
    obtain ⟨absent, different⟩ := List.nodup_cons.mp different
    rw [List.map_cons, List.map_cons, addTo]
    by_cases same : k = key
    · subst same
      rw [if_pos rfl, if_pos rfl]
      congr 1
      apply List.map_congr_left
      intro other member
      have different : other ≠ k := fun same => absent (by rwa [← same])
      rw [if_neg different]
    · rw [if_neg same, if_neg same, ih _ different]
      exact (List.mem_cons.mp present).resolve_left (fun here => same here.symm)

theorem distinct_nodup (values : List α) : (distinct values).Nodup := by
  induction values with
  | nil => exact List.nodup_nil
  | cons a rest ih =>
    rw [distinct, List.nodup_cons]
    refine ⟨?_, ih.filter _⟩
    simp

theorem distinct_of_nodup {values : List α} (different : values.Nodup) : distinct values = values := by
  induction values with
  | nil => rfl
  | cons a rest ih =>
    obtain ⟨new, different⟩ := List.nodup_cons.mp different
    rw [distinct, ih different, List.filter_eq_self.mpr]
    exact fun b member => decide_eq_true fun same => new (same ▸ member)

theorem find?_distinct (wanted : α → Bool) (values : List α) :
    (distinct values).find? wanted = values.find? wanted := by
  induction values with
  | nil => rfl
  | cons a rest ih =>
    rw [distinct]
    cases want : wanted a with
    | true => rw [List.find?_cons_of_pos want, List.find?_cons_of_pos want]
    | false =>
      have skip : ¬ wanted a = true := by simp [want]
      rw [List.find?_cons_of_neg skip, List.find?_cons_of_neg skip, ← ih, List.find?_filter]
      congr 1
      funext b
      by_cases same : b = a
      · simp [same, want]
      · simp [same]

theorem distinct_run {a : α} {front later : List α} (some : front ≠ []) (same : ∀ b ∈ front, b = a)
    (new : a ∉ later) : distinct (front ++ later) = a :: distinct later := by
  have others : (distinct later).filter (fun b => decide (b ≠ a)) = distinct later := by
    rw [List.filter_eq_self]
    intro b member
    exact decide_eq_true fun equal => new (equal ▸ mem_distinct.mp member)
  induction front with
  | nil => exact absurd rfl some
  | cons b rest ih =>
    obtain ⟨rfl, same⟩ := List.forall_mem_cons.mp same
    rw [List.cons_append, distinct]
    cases rest with
    | nil => rw [List.nil_append, others]
    | cons c rest =>
      rw [ih (List.cons_ne_nil _ _) same, List.filter_cons_of_neg (by simp), others]

theorem groupBy_eq (key : β → α) (values : List β) :
    groupBy key values =
      (distinct (values.map key)).map fun k => (k, values.filter fun v => key v = k) := by
  -- the groups of the values before, to which the next one is added
  suffices run : ∀ front : List β,
      values.foldl (fun groups value => addTo (key value) value groups)
        ((distinct (front.map key)).map fun k => (k, front.filter fun v => key v = k)) =
      (distinct ((front ++ values).map key)).map fun k => (k, (front ++ values).filter fun v => key v = k) by
    exact run []
  induction values with
  | nil => simp
  | cons value rest ih =>
    intro front
    have step : addTo (key value) value
        ((distinct (front.map key)).map fun k => (k, front.filter fun v => key v = k)) =
        (distinct ((front ++ [value]).map key)).map
          fun k => (k, (front ++ [value]).filter fun v => key v = k) := by
      rw [List.map_append, List.map_cons, List.map_nil, distinct_append_singleton]
      by_cases seen : key value ∈ front.map key
      · rw [if_pos seen, addTo_map _ _ _ _ (mem_distinct.mpr seen) (distinct_nodup _)]
        apply List.map_congr_left
        intro k _
        by_cases same : key value = k
        · simp [same]
        · have other : ¬ k = key value := fun here => same here.symm
          simp [same, other]
      · rw [if_neg seen, addTo_new, List.map_append]
        · congr 1
          · apply List.map_congr_left
            intro k member
            have other : key value ≠ k := fun same => seen (same ▸ mem_distinct.mp member)
            simp [other]
          · have none : front.filter (fun v => key v = key value) = [] := by
              rw [List.filter_eq_nil_iff]
              intro v member same
              exact seen (List.mem_map.mpr ⟨v, member, by simpa using same⟩)
            simp [none]
        · simpa [mem_distinct] using seen
    rw [List.foldl_cons, step, ih (front ++ [value]), List.append_assoc, List.singleton_append]

theorem groupBy_map {γ : Type} (f : γ → β) (key : β → α) (values : List γ) :
    groupBy key (values.map f) =
      (groupBy (fun value => key (f value)) values).map fun group => (group.1, group.2.map f) := by
  have keys : (values.map f).map key = values.map fun value => key (f value) := by
    rw [List.map_map]
    rfl
  rw [groupBy_eq, groupBy_eq, keys, List.map_map]
  refine List.map_congr_left fun k _ => ?_
  simp only [Function.comp_apply, List.filter_map]
  rfl

theorem mem_groupBy {key : β → α} {values : List β} {group : α × List β} :
    group ∈ groupBy key values ↔
      group.1 ∈ values.map key ∧ group.2 = values.filter fun v => key v = group.1 := by
  rw [groupBy_eq, List.mem_map]
  constructor
  · intro given
    rcases given with ⟨k, member, rfl⟩
    exact ⟨mem_distinct.mp member, rfl⟩
  · intro given
    rcases given with ⟨member, members⟩
    exact ⟨group.1, mem_distinct.mpr member, by rw [← members]⟩

theorem foldl_addTo (pairs : List (α × β)) :
    pairs.foldl (fun groups pair => addTo pair.1 pair.2 groups) [] =
      (groupBy Prod.fst pairs).map fun group => (group.1, group.2.map Prod.snd) := by
  let shown (groups : List (α × List (α × β))) : List (α × List β) :=
    groups.map fun group => (group.1, group.2.map Prod.snd)
  have step (pair : α × β) (groups : List (α × List (α × β))) :
      addTo pair.1 pair.2 (shown groups) = shown (addTo pair.1 pair groups) := by
    induction groups with
    | nil => rfl
    | cons group rest ih =>
      change addTo pair.1 pair.2 ((group.1, group.2.map Prod.snd) :: shown rest) = _
      rw [addTo, addTo]
      split
      · change _ = (group.1, (group.2 ++ [pair]).map Prod.snd) :: shown rest
        rw [List.map_append, List.map_singleton]
      · rw [ih]
        rfl
  suffices run : ∀ groups, pairs.foldl (fun groups pair => addTo pair.1 pair.2 groups) (shown groups) =
      shown (pairs.foldl (fun groups pair => addTo pair.1 pair groups) groups) by
    exact run []
  induction pairs with
  | nil => exact fun _ => rfl
  | cons pair rest ih =>
    intro groups
    rw [List.foldl_cons, List.foldl_cons, step, ih]

theorem filter_groupBy (key : β → α) (wanted : α → Bool) (values : List β) :
    ((groupBy key values).filter fun group => wanted group.1).flatMap Prod.snd =
      ((groupBy key values).flatMap Prod.snd).filter fun value => wanted (key value) := by
  have alike : ∀ group ∈ groupBy key values, ∀ value ∈ group.2, key value = group.1 := by
    intro group member value inside
    rw [(mem_groupBy.mp member).2] at inside
    exact of_decide_eq_true (List.mem_filter.mp inside).2
  generalize groupBy key values = groups at alike ⊢
  induction groups with
  | nil => rfl
  | cons group rest ih =>
    obtain ⟨here, there⟩ := List.forall_mem_cons.mp alike
    have whole : group.2.filter (fun value => wanted (key value)) = if wanted group.1 then group.2 else [] := by
      split
      · rename_i want
        exact List.filter_eq_self.mpr fun value inside => (here value inside).symm ▸ want
      · rename_i skip
        exact List.filter_eq_nil_iff.mpr fun value inside => (here value inside).symm ▸ skip
    rw [List.flatMap_cons, List.filter_append, ← ih there, whole, List.filter_cons]
    split
    · rw [List.flatMap_cons]
    · rw [List.nil_append]

theorem addTo_perm (key : α) (value : β) (groups : List (α × List β)) :
    ((addTo key value groups).flatMap Prod.snd).Perm (value :: groups.flatMap Prod.snd) := by
  induction groups with
  | nil => exact List.Perm.refl _
  | cons group rest ih =>
    obtain ⟨k, members⟩ := group
    rw [addTo]
    split
    · rw [List.flatMap_cons, List.flatMap_cons, List.append_assoc, List.singleton_append]
      exact List.perm_middle
    · rw [List.flatMap_cons, List.flatMap_cons]
      exact (ih.append_left members).trans List.perm_middle

theorem groupBy_perm (key : β → α) (values : List β) :
    ((groupBy key values).flatMap Prod.snd).Perm values := by
  suffices run : ∀ groups : List (α × List β),
      ((values.foldl (fun groups value => addTo (key value) value groups) groups).flatMap Prod.snd).Perm
        (values ++ groups.flatMap Prod.snd) by
    have grouped := run []
    rwa [List.flatMap_nil, List.append_nil] at grouped
  induction values with
  | nil => exact fun _ => List.Perm.refl _
  | cons value rest ih =>
    intro groups
    rw [List.foldl_cons]
    exact (ih _).trans (((addTo_perm (key value) value groups).append_left rest).trans List.perm_middle)

theorem findSome?_filter {γ : Type} {p : γ → Bool} {f : γ → Option β} (none : ∀ a, p a = false → f a = none)
    (values : List γ) : (values.filter p).findSome? f = values.findSome? f := by
  induction values with
  | nil => rfl
  | cons a rest ih =>
    cases kept : p a with
    | true => rw [List.filter_cons_of_pos kept, List.findSome?_cons, List.findSome?_cons, ih]
    | false => rw [List.filter_cons_of_neg (by simp [kept]), List.findSome?_cons, none a kept, ih]

theorem find?_groupBy (key : β → α) (wanted : α → Bool) (values : List β) :
    ((groupBy key values).flatMap Prod.snd).find? (fun v => wanted (key v)) =
      values.find? fun v => wanted (key v) := by
  have inGroup (values : List β) (k : α) :
      (values.filter fun v => key v = k).find? (fun v => wanted (key v)) =
        if wanted k then values.find? (fun v => key v = k) else none := by
    induction values with
    | nil => simp
    | cons value rest ih =>
      by_cases here : key value = k
      · subst here
        cases want : wanted (key value) <;> simp [want, ih]
      · simp [here, ih]
  rw [groupBy_eq, List.flatMap_map, List.find?_flatMap]
  simp only [inGroup]
  induction values with
  | nil => rfl
  | cons value rest ih =>
    rw [List.map_cons, distinct, List.findSome?_cons]
    cases want : wanted (key value) with
    | true => simp [want]
    | false =>
      have other (k : α) : (if wanted k then (value :: rest).find? (fun v => key v = k) else none) =
          if wanted k then rest.find? (fun v => key v = k) else none := by
        split
        · rename_i wantK
          refine List.find?_cons_of_neg ?_
          intro same
          rw [decide_eq_true_eq] at same
          rw [same, wantK] at want
          cases want
        · rfl
      have skipped : ∀ k, decide (k ≠ key value) = false →
          (if wanted k then rest.find? (fun v => key v = k) else none) = none := by
        intro k same
        rw [decide_eq_false_iff_not, Decidable.not_not] at same
        rw [same, want]
        rfl
      simp only [other]
      rw [if_neg Bool.false_ne_true, findSome?_filter skipped, ih, List.find?_cons_of_neg (by simp [want])]

theorem firsts_run (same : β → β → Bool) (values kept : List β) :
    ∃ later, values.foldl (fun kept value => if kept.any (same value) then kept else kept ++ [value]) kept =
      kept ++ later := by
  induction values generalizing kept with
  | nil => exact ⟨[], (List.append_nil kept).symm⟩
  | cons value rest ih =>
    rw [List.foldl_cons]
    split
    · exact ih kept
    · obtain ⟨later, run⟩ := ih (kept ++ [value])
      exact ⟨value :: later, by rw [run, List.append_assoc, List.singleton_append]⟩

theorem firsts_cons (same : β → β → Bool) (value : β) (rest : List β) :
    ∃ later, firsts same (value :: rest) = value :: later :=
  firsts_run same rest [value]

theorem firsts_single_iff (same : β → β → Bool) (value : β) (rest : List β) :
    (firsts same (value :: rest)).length = 1 ↔ ∀ other ∈ rest, same other value = true := by
  change (rest.foldl _ [value]).length = 1 ↔ _
  induction rest with
  | nil => simp
  | cons other rest ih =>
    rw [List.foldl_cons, List.forall_mem_cons]
    cases alike : same other value with
    | true =>
      have known : [value].any (same other) = true := by simp [alike]
      rw [if_pos known, ih]
      simp
    | false =>
      have unknown : ¬ [value].any (same other) = true := by simp [alike]
      obtain ⟨later, run⟩ := firsts_run same rest ([value] ++ [other])
      rw [if_neg unknown, run]
      simp

theorem firsts_congr {same other : β → β → Bool} {values : List β}
    (agree : ∀ a ∈ values, ∀ b ∈ values, same a b = other a b) : firsts same values = firsts other values := by
  suffices run : ∀ kept : List β, (∀ a ∈ values, ∀ b ∈ kept, same a b = other a b) →
      values.foldl (fun kept value => if kept.any (same value) then kept else kept ++ [value]) kept =
        values.foldl (fun kept value => if kept.any (other value) then kept else kept ++ [value]) kept by
    exact run [] nofun
  induction values with
  | nil => exact fun _ _ => rfl
  | cons value rest ih =>
    intro kept before
    have later := ih fun a memberA b memberB =>
      agree a (List.mem_cons_of_mem _ memberA) b (List.mem_cons_of_mem _ memberB)
    have here : kept.any (same value) = kept.any (other value) := by
      rw [Bool.eq_iff_iff, List.any_eq_true, List.any_eq_true]
      exact exists_congr fun b => and_congr_right fun member => by rw [before value List.mem_cons_self b member]
    rw [List.foldl_cons, List.foldl_cons, here]
    split
    · exact later kept fun a member => before a (List.mem_cons_of_mem _ member)
    · refine later _ ?_
      intro a member b among
      rcases List.mem_append.mp among with old | new
      · exact before a (List.mem_cons_of_mem _ member) b old
      · cases List.mem_singleton.mp new
        exact agree a (List.mem_cons_of_mem _ member) value List.mem_cons_self

end TableTalk.Assoc
