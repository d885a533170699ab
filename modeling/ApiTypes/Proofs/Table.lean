import Mathlib.Data.Finset.Dedup
import Mathlib.Data.Finset.Card
import ApiTypes.Proofs.Hoisting
import ApiTypes.Proofs.LastWins
/-!
The table of hoisted declarations. What it shows is known from the insertions that made it, and while a schema is hoisted
nothing happens to it but insertions, which do not depend on what it holds.
-/
namespace ApiTypes

theorem Text.join_with_intercalate (sep : Text) (ts : List Text) : joinWith sep ts = sep.intercalate ts := by
  induction ts with
  | nil => rfl
  | cons t ts ih =>
    cases ts with
    | nil => simp [joinWith, List.intercalate]
    | cons u ts =>
      rw [joinWith, ih, List.intercalate, List.intercalate, List.intersperse_cons_cons, List.flatten_cons, List.flatten_cons,
        List.append_assoc]

namespace Declaration.Table

def ofInsertions (ds : List Declaration) : Table := ds.foldl insert empty

theorem of_insertions_last_wins (ds : List Declaration) :
    Ordered.LastWins (ds.map fun d => (d.name, d)) (ofInsertions ds).entries := by
  rw [ofInsertions, Schema.insert_all_entries]
  exact Ordered.LastWins.of_list _

theorem insertion_keys (ds : List Declaration) : Ordered.keys (ds.map fun d => (d.name, d)) = ds.map Declaration.name :=
  List.map_map

theorem insertion_last (x : Text) (ds : List Declaration) :
    Ordered.last? x (ds.map fun d => (d.name, d)) = (ds.filter (·.name == x)).getLast? := by
  rw [Ordered.last?, List.filter_map, List.getLast?_map, Option.map_map]
  exact Option.map_id_apply

theorem names_filter_map {table : Table} (apart : Ordered.WellFormed table.entries) :
    table.names.filterMap table.get? = table.declarations := by
  have found := congrArg (List.filterMap Prod.snd) (Ordered.entries_of_keys apart)
  rw [List.filterMap_map, List.filterMap_map] at found
  exact found.trans (congrFun List.filterMap_eq_map' table.entries)

/-- A table has each inserted name once, in the order in which the names first came, and under each what was inserted last.
Its size counts the names, and its text is that of what is found under them, followed by the root. -/
theorem table_shows_insertions (ds : List Declaration) :
    (ofInsertions ds).names.Nodup ∧
    (∀ x, x ∈ (ofInsertions ds).names ↔ ∃ d ∈ ds, d.name = x) ∧
    ((ofInsertions ds).names.Pairwise fun x y =>
      (ds.map Declaration.name).idxOf x < (ds.map Declaration.name).idxOf y) ∧
    (∀ x, (ofInsertions ds).get? x = (ds.filter (·.name == x)).getLast?) ∧
    (ofInsertions ds).size = (ds.map Declaration.name).toFinset.card ∧
    ((ofInsertions ds).isEmpty = true ↔ ds = []) ∧
    ∀ root, (ofInsertions ds).assemble root =
      ['\n'].intercalate (((ofInsertions ds).names.filterMap (ofInsertions ds).get? ++ [root]).map render) := by
  have wins := of_insertions_last_wins ds
  have inserted : ∀ x, x ∈ (ofInsertions ds).names ↔ x ∈ ds.map Declaration.name := by
    intro x
    rw [← insertion_keys]
    exact wins.inserted x
  have distinct : (ofInsertions ds).names.Nodup := wins.apart
  refine ⟨distinct, ?listed, ?order, ?last, ?size, ?empty, ?text⟩
  case listed =>
    intro x
    rw [inserted, List.mem_map]
  case order =>
    rw [← insertion_keys]
    exact wins.order
  case last =>
    intro x
    rw [← insertion_last]
    exact wins.last x
  case size =>
    have same : (ofInsertions ds).names.toFinset = (ds.map Declaration.name).toFinset := by
      ext x
      rw [List.mem_toFinset, List.mem_toFinset, inserted]
    rw [← same, List.toFinset_card_of_nodup distinct, names, Ordered.keys, List.length_map, size]
  case empty =>
    have none : (ofInsertions ds).entries = [] ↔ ∀ x, x ∉ (ofInsertions ds).names := by
      rw [← List.eq_nil_iff_forall_not_mem, names, Ordered.keys, List.map_eq_nil_iff]
    rw [isEmpty, List.isEmpty_iff, none]
    simp only [inserted]
    rw [← List.eq_nil_iff_forall_not_mem, List.map_eq_nil_iff]
  case text =>
    intro root
    rw [assemble, Text.join_with_intercalate, names_filter_map wins.apart]

end Declaration.Table

namespace Schema

open Declaration (Table)

/-! ### The insertions of a run -/

structure Logged where
  table : Table
  log : List Declaration

def Logged.insert (l : Logged) (d : Declaration) : Logged := ⟨l.table.insert d, l.log ++ [d]⟩

theorem log_all (ds : List Declaration) (l : Logged) :
    ds.foldl Logged.insert l = ⟨ds.foldl Table.insert l.table, l.log ++ ds⟩ := by
  induction ds generalizing l with
  | nil => simp
  | cons d ds ih =>
    rw [List.foldl_cons, ih]
    simp [Logged.insert]

def performed (s : Schema) (name : Text) (table : Table) : List Declaration :=
  (s.hoistInto Logged.insert name ⟨table, []⟩).2.log

theorem performed_eq (s : Schema) (name : Text) (table : Table) : s.performed name table = s.insertions name := by
  rw [performed, hoist_into_inserts, log_all]
  rfl

/-- Nothing but the insertions `ds` was done to a table: what they have no name for stays as it is and where it is, and
no name moves. -/
structure Inserted (ds : List Declaration) (before after : Table) : Prop where
  result : after = ds.foldl Table.insert before
  kept : ∀ (i : Nat) (e : Text × Declaration), before.entries[i]? = some e → e.1 ∉ ds.map Declaration.name →
    after.entries[i]? = some e
  places : before.names <+: after.names
  names : ∀ x, x ∈ after.names ↔ x ∈ before.names ∨ ∃ d ∈ ds, d.name = x

theorem insert_all_inserted (ds : List Declaration) (table : Table) : Inserted ds table (ds.foldl Table.insert table) := by
  have entries := insert_all_entries ds table
  have keys := Table.insertion_keys ds
  refine ⟨rfl, ?kept, ?places, ?names⟩
  case kept =>
    intro i e there other
    rw [entries]
    exact Ordered.put_all_keeps_place there (by rwa [keys])
  case places =>
    rw [Table.names, Table.names, entries]
    exact Ordered.put_all_keys_lead _ _
  case names =>
    intro x
    rw [Table.names, entries, Ordered.put_all_key_iff, keys, List.mem_map, or_comm]
    rfl

/-- Hoisting does not look at the table. From any two tables it gives the same type and makes the same insertions, each under
the name of the declaration followed by copies of `Item`; beyond them the table stays as it is. -/
theorem hoisting_only_inserts (s : Schema) (name : Text) :
    (∀ before before' : Table, (s.hoist name before).1 = (s.hoist name before').1 ∧
      s.performed name before = s.performed name before') ∧
    (∀ before : Table, s.hoistInto Logged.insert name ⟨before, []⟩ =
      ((s.hoist name before).1, ⟨(s.hoist name before).2, s.performed name before⟩)) ∧
    ∀ before : Table, Inserted (s.performed name before) before (s.hoist name before).2 ∧
      ∀ d ∈ s.performed name before, ∃ k, 0 < k ∧ d.name = name ++ (List.replicate k "Item".toList).flatten := by
  refine ⟨?same, ?logged, ?frame⟩
  case same =>
    intro before before'
    rw [hoist_inserts, hoist_inserts, performed_eq, performed_eq]
    exact ⟨rfl, rfl⟩
  case logged =>
    intro before
    rw [hoist_into_inserts, log_all, hoist_inserts, performed_eq, List.nil_append]
  case frame =>
    intro before
    rw [performed_eq, hoist_inserts]
    refine ⟨insert_all_inserted _ _, fun d mem => ?_⟩
    obtain ⟨k, named⟩ := insertion_name s mem
    exact ⟨k + 1, Nat.succ_pos k, named⟩

end Schema

end ApiTypes
