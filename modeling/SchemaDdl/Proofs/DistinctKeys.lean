import SchemaDdl.Toml.Document

namespace SchemaDdl

theorem bind_eq_ok_iff {ε α β : Type} {x : Except ε α} {f : α → Except ε β} {b : β} :
    (x >>= f) = .ok b ↔ ∃ a, x = .ok a ∧ f a = .ok b := by
  cases x with
  | error e => simp [bind, Except.bind]
  | ok a => simp [bind, Except.bind]

/-- In all tables of the value, keys are distinct. -/
inductive Value.Distinct : Value → Prop
  | scalar {v : Value} : Toml.isCollection v = false → Distinct v
  | list {items : List Value} : (∀ v ∈ items, Distinct v) → Distinct (.list items)
  | table {entries : Table} : (entries.map Prod.fst).Nodup → (∀ e ∈ entries, Distinct e.2) → Distinct (.table entries)

theorem Value.distinct_list_iff {items : List Value} : (Value.list items).Distinct ↔ ∀ v ∈ items, v.Distinct := by
  refine ⟨?_, .list⟩
  intro h
  cases h with
  | scalar h => cases h
  | list h => exact h

theorem Value.distinct_table_iff {entries : Table} : (Value.table entries).Distinct ↔
    (entries.map Prod.fst).Nodup ∧ ∀ e ∈ entries, e.2.Distinct := by
  refine ⟨?_, fun h ↦ .table h.1 h.2⟩
  intro h
  cases h with
  | scalar h => cases h
  | table hkeys h => exact ⟨hkeys, h⟩

theorem Value.distinct_empty : (Value.table []).Distinct := .table List.nodup_nil (by simp)

namespace Table

variable {t : Table} {key : String} {v : Value}

theorem mem_of_get? (h : t.get? key = some v) : (key, v) ∈ t := by
  induction t with
  | nil => cases h
  | cons e rest ih =>
    obtain ⟨k, w⟩ := e
    rw [get?] at h
    split at h
    next hk =>
      cases h
      cases hk
      simp
    next => exact .tail _ (ih h)

theorem mem_put {e : String × Value} (h : e ∈ t.put key v) : e = (key, v) ∨ e ∈ t := by
  induction t with
  | nil => exact .inl (List.mem_singleton.1 h)
  | cons d rest ih =>
    obtain ⟨k, w⟩ := d
    rw [put] at h
    split at h
    · obtain h | h := List.mem_cons.1 h
      · exact .inl h
      · exact .inr (.tail _ h)
    · obtain rfl | h := List.mem_cons.1 h
      · exact .inr (by simp)
      · obtain h | h := ih h
        · exact .inl h
        · exact .inr (.tail _ h)

theorem nodup_keys_put (h : (t.map Prod.fst).Nodup) : ((t.put key v).map Prod.fst).Nodup := by
  induction t with
  | nil => simp [put]
  | cons d rest ih =>
    obtain ⟨k, w⟩ := d
    rw [List.map_cons, List.nodup_cons] at h
    rw [put]
    split
    next hk =>
      rw [List.map_cons, List.nodup_cons, ← hk]
      exact h
    next hk =>
      rw [List.map_cons, List.nodup_cons]
      refine ⟨?_, ih h.2⟩
      intro hmem
      obtain ⟨e, he, hfst⟩ := List.mem_map.1 hmem
      obtain rfl | he := mem_put he
      · exact hk hfst.symm
      · exact h.1 (List.mem_map.2 ⟨e, he, hfst⟩)

theorem distinct_of_get? (h : (Value.table t).Distinct) (hv : t.get? key = some v) : v.Distinct :=
  (Value.distinct_table_iff.1 h).2 _ (mem_of_get? hv)

theorem distinct_put (h : (Value.table t).Distinct) (hv : v.Distinct) : (Value.table (t.put key v)).Distinct := by
  obtain ⟨hkeys, hvalues⟩ := Value.distinct_table_iff.1 h
  refine .table (nodup_keys_put hkeys) ?_
  intro e he
  obtain rfl | he := mem_put he
  · exact hv
  · exact hvalues e he

end Table

theorem Value.distinct_at? {v w : Value} {path : List String} (h : v.Distinct) (hw : v.at? path = some w) :
    w.Distinct := by
  induction path generalizing v with
  | nil =>
    cases v <;> cases hw <;> exact h
  | cons key path ih =>
    cases v with
    | table entries =>
      obtain ⟨u, hu, hw⟩ := Option.bind_eq_some_iff.1 hw
      exact ih (Table.distinct_of_get? h hu) hw
    | _ => cases hw

namespace Toml

variable {limit : Limit} {around : List Bracket} {t t' : Table} {v : Value} {cs rest : List Char}

theorem distinct_updateAt {enterLists : Bool} {f : Table → Option Table} {path : List String}
    (hf : ∀ t t', (Value.table t).Distinct → f t = some t' → (Value.table t').Distinct)
    (ht : (Value.table t).Distinct) (h : updateAt enterLists f path t = some t') : (Value.table t').Distinct := by
  fun_induction updateAt enterLists f path t generalizing t' with
  | case1 t => exact hf t t' ht h
  | case2 t k ks hget ih =>
    obtain ⟨u, hu, rfl⟩ := Option.map_eq_some_iff.1 h
    exact Table.distinct_put ht (ih Value.distinct_empty hu)
  | case3 t k ks w hget ih =>
    obtain ⟨u, hu, rfl⟩ := Option.map_eq_some_iff.1 h
    exact Table.distinct_put ht (ih (Table.distinct_of_get? ht hget) hu)
  | case4 t k ks items hget w hlast hlists ih =>
    obtain ⟨u, hu, rfl⟩ := Option.map_eq_some_iff.1 h
    have hitems := Value.distinct_list_iff.1 (Table.distinct_of_get? ht hget)
    refine Table.distinct_put ht (.list ?_)
    intro v hv
    obtain hv | hv := List.mem_append.1 hv
    · exact hitems v (List.dropLast_subset items hv)
    · cases List.mem_singleton.1 hv
      cases hlists
      exact ih (hitems _ (List.mem_of_getLast? hlast)) hu
  | case5 => cases h
  | case6 => cases h

theorem distinct_define {key : String} (hv : v.Distinct) (t t' : Table) (ht : (Value.table t).Distinct)
    (h : define key v t = some t') : (Value.table t').Distinct := by
  unfold define at h
  split at h
  · cases h
    exact Table.distinct_put ht hv
  · cases h

theorem distinct_appendTable {key : String} (t t' : Table) (ht : (Value.table t).Distinct)
    (h : appendTable key t = some t') : (Value.table t').Distinct := by
  unfold appendTable at h
  split at h
  · cases h
    refine Table.distinct_put ht (.list ?_)
    intro v hv
    cases List.mem_singleton.1 hv
    exact Value.distinct_empty
  next items hget =>
    cases h
    refine Table.distinct_put ht (.list ?_)
    intro v hv
    obtain hv | hv := List.mem_append.1 hv
    · exact Value.distinct_list_iff.1 (Table.distinct_of_get? ht hget) v hv
    · cases List.mem_singleton.1 hv
      exact Value.distinct_empty
  · cases h

theorem isCollection_of_checked {b : Prop} [Decidable b] {w : Value} {after : List Char} (hw : isCollection w = false)
    (h : (if b then Except.ok (w, after) else Except.error Fault.invalid) = .ok (v, rest)) : isCollection v = false := by
  split at h
  · cases h
    exact hw
  · cases h

theorem isCollection_dateTime? (h : dateTime? cs = some (.ok (v, rest))) : isCollection v = false := by
  unfold dateTime? at h
  simp only [Option.bind_eq_bind, Option.bind_eq_some_iff] at h
  obtain ⟨_, -, _, -, _, -, _, -, _, -, h⟩ := h
  split at h
  · split at h
    · exact isCollection_of_checked rfl (Option.some.inj h)
    · exact isCollection_of_checked rfl (Option.some.inj h)
  · exact isCollection_of_checked rfl (Option.some.inj h)

theorem isCollection_decimal? (h : decimal? cs = some (.ok (v, rest))) : isCollection v = false := by
  unfold decimal? at h
  simp only [Option.bind_eq_bind, Option.bind_eq_some_iff] at h
  obtain ⟨_, -, h⟩ := h
  split at h
  · obtain ⟨ds, -, h⟩ := Option.bind_eq_some_iff.1 h
    split at h
    · cases h
    · cases h
      rfl
  · obtain ⟨x, -, h⟩ := Option.bind_eq_some_iff.1 h
    cases h
    rfl

theorem isCollection_number? (h : number? cs = some (.ok (v, rest))) : isCollection v = false := by
  unfold number? at h
  split at h
  · split at h
    · cases h
      rfl
    · exact isCollection_decimal? h
  · exact isCollection_decimal? h

theorem isCollection_specialFloat? (h : specialFloat? cs = some (v, rest)) : isCollection v = false := by
  unfold specialFloat? at h
  obtain ⟨n, -, hn⟩ := List.exists_of_findSome?_eq_some h
  dsimp only at hn
  split at hn
  · obtain ⟨x, -, hx⟩ := Option.map_eq_some_iff.1 hn
    cases hx
    rfl
  · cases hn

theorem eq_some_of_orInvalid {α : Type} {x : Option α} {a : α} (h : orInvalid x = .ok a) : x = some a := by
  cases x with
  | none => cases h
  | some b =>
    cases h
    rfl

/-- What the readers of values give, with a bound on depth and length. -/
structure ReadsDistinct (limit : Limit) (fuel : Nat) : Prop where
  value : ∀ around cs v rest, Toml.value limit fuel around cs = .ok (v, rest) → v.Distinct
  items : ∀ around cs vs rest, listItems limit fuel around cs = .ok (vs, rest) → ∀ v ∈ vs, v.Distinct
  entries : ∀ around frozen t cs t' rest, (Value.table t).Distinct →
    inlineEntries limit fuel around frozen t cs = .ok (t', rest) → (Value.table t').Distinct
  keyValue : ∀ around cs path v rest, Toml.keyValue limit fuel around cs = .ok (path, v, rest) → v.Distinct

theorem distinct_of_quoted {r : Except Fault (List Char × List Char)}
    (h : (r >>= fun x ↦ pure (Value.text (String.ofList x.1), x.2)) = .ok (v, rest)) : v.Distinct := by
  obtain ⟨x, -, h⟩ := bind_eq_ok_iff.1 h
  cases h
  exact .scalar rfl

theorem distinct_value {fuel : Nat} (ih : ReadsDistinct limit fuel)
    (h : Toml.value limit (fuel + 1) around cs = .ok (v, rest)) : v.Distinct := by
  unfold Toml.value at h
  split at h
  · cases h
  split at h
  · exact distinct_of_quoted h
  · exact distinct_of_quoted h
  · exact distinct_of_quoted h
  · exact distinct_of_quoted h
  · cases h
    exact .scalar rfl
  · cases h
    exact .scalar rfl
  · obtain ⟨⟨items, after⟩, hitems, h⟩ := bind_eq_ok_iff.1 h
    cases h
    exact .list (ih.items _ _ _ _ hitems)
  · split at h
    · cases h
      exact Value.distinct_empty
    · obtain ⟨⟨t, after⟩, ht, h⟩ := bind_eq_ok_iff.1 h
      cases h
      exact ih.entries _ _ _ _ _ _ Value.distinct_empty ht
  · split at h
    next hdate =>
      subst h
      exact .scalar (isCollection_dateTime? hdate)
    · split at h
      · cases h
        exact .scalar rfl
      · split at h
        next hnumber =>
          subst h
          exact .scalar (isCollection_number? hnumber)
        · exact .scalar (isCollection_specialFloat? (eq_some_of_orInvalid h))

theorem distinct_listItems {fuel : Nat} (ih : ReadsDistinct limit fuel) {vs : List Value}
    (h : listItems limit (fuel + 1) around cs = .ok (vs, rest)) : ∀ v ∈ vs, v.Distinct := by
  unfold listItems at h
  obtain ⟨after, -, h⟩ := bind_eq_ok_iff.1 h
  split at h
  · cases h
    simp
  · obtain ⟨⟨v, after⟩, hv, h⟩ := bind_eq_ok_iff.1 h
    obtain ⟨_, -, h⟩ := bind_eq_ok_iff.1 h
    split at h
    · cases h
      intro w hw
      cases List.mem_singleton.1 hw
      exact ih.value _ _ _ _ hv
    · obtain ⟨⟨ws, after⟩, hws, h⟩ := bind_eq_ok_iff.1 h
      cases h
      intro w hw
      obtain rfl | hw := List.mem_cons.1 hw
      · exact ih.value _ _ _ _ hv
      · exact ih.items _ _ _ _ hws w hw
    · cases h

theorem distinct_inlineEntries {fuel : Nat} (ih : ReadsDistinct limit fuel) {frozen : List (List String)}
    (ht : (Value.table t).Distinct) (h : inlineEntries limit (fuel + 1) around frozen t cs = .ok (t', rest)) :
    (Value.table t').Distinct := by
  unfold inlineEntries at h
  obtain ⟨⟨path, v, after⟩, hv, h⟩ := bind_eq_ok_iff.1 h
  dsimp only at h
  split at h
  · cases h
  · obtain ⟨u, hu, h⟩ := bind_eq_ok_iff.1 h
    have hdistinct : (Value.table u).Distinct :=
      distinct_updateAt (distinct_define (ih.keyValue _ _ _ _ _ hv)) ht (eq_some_of_orInvalid hu)
    split at h
    · cases h
      exact hdistinct
    · exact ih.entries _ _ _ _ _ _ hdistinct h
    · cases h

theorem distinct_keyValue {fuel : Nat} (ih : ReadsDistinct limit fuel) {path : List String}
    (h : Toml.keyValue limit (fuel + 1) around cs = .ok (path, v, rest)) : v.Distinct := by
  unfold Toml.keyValue at h
  obtain ⟨⟨p, after⟩, -, h⟩ := bind_eq_ok_iff.1 h
  dsimp only at h
  split at h
  · obtain ⟨⟨w, _⟩, hw, h⟩ := bind_eq_ok_iff.1 h
    cases h
    exact ih.value _ _ _ _ hw
  · cases h

theorem readsDistinct (limit : Limit) (fuel : Nat) : ReadsDistinct limit fuel := by
  induction fuel with
  | zero =>
    refine ⟨?_, ?_, ?_, ?_⟩
    · intro around cs v rest h
      cases h
    · intro around cs vs rest h
      cases h
    · intro around frozen t cs t' rest ht h
      cases h
    · intro around cs path v rest h
      cases h
  | succ fuel ih =>
    exact ⟨fun _ _ _ _ ↦ distinct_value ih, fun _ _ _ _ ↦ distinct_listItems ih,
      fun _ _ _ _ _ _ ↦ distinct_inlineEntries ih, fun _ _ _ _ _ ↦ distinct_keyValue ih⟩

theorem State.distinct_addEntry {s s' : State} {path : List String} (hs : (Value.table s.root).Distinct)
    (hv : v.Distinct) (h : s.addEntry path v = some s') : (Value.table s'.root).Distinct := by
  unfold addEntry at h
  dsimp only at h
  split at h
  · cases h
  split at h
  · cases h
  · obtain ⟨root, hroot, h⟩ := Option.bind_eq_some_iff.1 h
    cases h
    exact distinct_updateAt (distinct_define hv) hs hroot

theorem State.distinct_openTable {s s' : State} {path : List String} (hs : (Value.table s.root).Distinct)
    (h : s.openTable path = some s') : (Value.table s'.root).Distinct := by
  unfold openTable at h
  split at h
  · cases h
  · obtain ⟨root, hroot, h⟩ := Option.bind_eq_some_iff.1 h
    cases h
    refine distinct_updateAt ?_ hs hroot
    intro t t' ht h
    cases h
    exact ht

theorem State.distinct_openListTable {s s' : State} {path : List String} (hs : (Value.table s.root).Distinct)
    (h : s.openListTable path = some s') : (Value.table s'.root).Distinct := by
  unfold openListTable at h
  split at h
  · cases h
  · obtain ⟨root, hroot, h⟩ := Option.bind_eq_some_iff.1 h
    cases h
    exact distinct_updateAt distinct_appendTable hs hroot

theorem distinct_tableHeader {s s' : State} (hs : (Value.table s.root).Distinct)
    (h : tableHeader s cs = .ok (s', rest)) : (Value.table s'.root).Distinct := by
  have hsettled : (Value.table s.settle.root).Distinct := hs
  unfold tableHeader at h
  dsimp only at h
  split at h
  · obtain ⟨⟨path, after⟩, -, h⟩ := bind_eq_ok_iff.1 h
    obtain ⟨s₁, hs₁, h⟩ := bind_eq_ok_iff.1 h
    have hdistinct := State.distinct_openListTable hsettled (eq_some_of_orInvalid hs₁)
    split at h
    · cases h
      exact hdistinct
    · cases h
  · obtain ⟨⟨path, after⟩, -, h⟩ := bind_eq_ok_iff.1 h
    obtain ⟨s₁, hs₁, h⟩ := bind_eq_ok_iff.1 h
    have hdistinct := State.distinct_openTable hsettled (eq_some_of_orInvalid hs₁)
    split at h
    · cases h
      exact hdistinct
    · cases h

theorem distinct_statement {s s' : State} (hs : (Value.table s.root).Distinct)
    (h : statement limit s cs = .ok (s', rest)) : (Value.table s'.root).Distinct := by
  unfold statement at h
  split at h
  · obtain ⟨⟨s₁, after⟩, hs₁, h⟩ := bind_eq_ok_iff.1 h
    cases h
    exact distinct_tableHeader hs hs₁
  · cases h
    exact hs
  · obtain ⟨⟨path, v, after⟩, hv, h⟩ := bind_eq_ok_iff.1 h
    obtain ⟨s₁, hs₁, h⟩ := bind_eq_ok_iff.1 h
    cases h
    exact State.distinct_addEntry hs ((readsDistinct limit _).keyValue _ _ _ _ _ hv) (eq_some_of_orInvalid hs₁)

theorem distinct_statements {fuel : Nat} {s s' : State} (hs : (Value.table s.root).Distinct)
    (h : statements limit fuel s cs = .ok s') : (Value.table s'.root).Distinct := by
  induction fuel generalizing s cs with
  | zero =>
    cases h
    exact hs
  | succ fuel ih =>
    unfold statements at h
    split at h
    · cases h
      exact hs
    · exact ih hs h
    · obtain ⟨⟨s₁, after⟩, hs₁, h⟩ := bind_eq_ok_iff.1 h
      have hdistinct := distinct_statement hs hs₁
      obtain ⟨left, -, h⟩ := bind_eq_ok_iff.1 h
      split at h
      · cases h
        exact hdistinct
      · exact ih hdistinct h
      · cases h

theorem distinct_parse {root : Table} (h : parse limit cs = .ok root) : (Value.table root).Distinct := by
  obtain ⟨s, hs, h⟩ := bind_eq_ok_iff.1 h
  cases h
  exact distinct_statements Value.distinct_empty hs

end Toml

end SchemaDdl
