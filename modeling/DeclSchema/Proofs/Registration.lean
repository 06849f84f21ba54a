import DeclSchema.Catalog.Builtin
import Mathlib.Data.List.Nodup

/-!
Catalogs as registrations build them.

Nothing but registration ever changes a catalog, so what one registration
keeps holds of every catalog there is (`Built`). The fact that everything
else rests on is that record names stay pairwise distinct: a record that is
registered again first leaves its old place. The mapping remembers records
by their names and a document finds its record again by its name, and both
mean that one record only because of this.

What a whole run of registrations leaves behind has a form of its own, in
which no intermediate catalog occurs (`records_registerAll`): the last
registration of each name, where it stands in the run. It is shown from any
catalog on, since a run goes on with what the run before it has left.
-/

namespace DeclSchema.Catalog

variable {c : Catalog} {r s : RecordDecl}

/-- A catalog that registrations lead to, from nothing or from the built-in
declarations. -/
def Built (c : Catalog) : Prop :=
  ∃ start ∈ [empty, builtin], ∃ rs, c = start.registerAll rs

/-- No two records of the catalog have one name. -/
def NamesDistinct (c : Catalog) : Prop :=
  (c.records.map (·.name)).Nodup

theorem namesDistinct_empty : empty.NamesDistinct := by
  simp [NamesDistinct, empty]

/-- One registration keeps the names distinct: the new record comes after
every record of its name is gone. -/
theorem NamesDistinct.register (h : c.NamesDistinct) (x : Registration) :
    (c.register x).NamesDistinct := by
  cases x with
  | function f => exact h
  | record new =>
      have hold : ((c.records.filter fun old => old.name != new.name).map (·.name)).Nodup :=
        List.Nodup.sublist (List.filter_sublist.map _) h
      have hnew : new.name ∉ (c.records.filter fun old => old.name != new.name).map (·.name) := by
        intro hmem
        obtain ⟨old, hkept, hname⟩ := List.mem_map.mp hmem
        have hne := (List.mem_filter.mp hkept).2
        simp [hname] at hne
      show ((c.records.filter (fun old => old.name != new.name) ++ [new]).map (·.name)).Nodup
      rw [List.map_append]
      refine hold.append (List.nodup_singleton _) ?_
      intro name hleft hright
      rw [List.map_singleton, List.mem_singleton] at hright
      exact hnew (hright ▸ hleft)

/-- A whole run of registrations keeps the names distinct. -/
theorem NamesDistinct.registerAll (h : c.NamesDistinct) (rs : List Registration) :
    (c.registerAll rs).NamesDistinct := by
  induction rs generalizing c with
  | nil => exact h
  | cons x rest ih => exact ih (h.register x)

theorem Built.namesDistinct (h : c.Built) : c.NamesDistinct := by
  obtain ⟨start, hstart, rs, rfl⟩ := h
  simp only [List.mem_cons, List.not_mem_nil, or_false] at hstart
  rcases hstart with rfl | rfl
  · exact namesDistinct_empty.registerAll rs
  · exact (namesDistinct_empty.registerAll builtinRegistrations).registerAll rs

/-- A name stands for one record at most. -/
theorem NamesDistinct.eq_of_name_eq (h : c.NamesDistinct) (hr : r ∈ c.records)
    (hs : s ∈ c.records) (hname : r.name = s.name) : r = s :=
  List.inj_on_of_nodup_map h hr hs hname

/-! ### What a run leaves behind -/

theorem registerAll_cons (c : Catalog) (x : Registration) (rest : List Registration) :
    c.registerAll (x :: rest) = (c.register x).registerAll rest := rfl

def Registration.record? : Registration → Option RecordDecl
  | .record r => some r
  | .function _ => none

def Registration.function? : Registration → Option FunctionDecl
  | .record _ => none
  | .function f => some f

/-- A later record has the name of this one. -/
def ReplacedBy (later : List RecordDecl) (r : RecordDecl) : Prop :=
  ∃ s ∈ later, s.name = r.name

instance (later : List RecordDecl) (r : RecordDecl) : Decidable (ReplacedBy later r) :=
  inferInstanceAs (Decidable (∃ s ∈ later, s.name = r.name))

/-- The records of a list in order, without those that a later one
replaces. -/
def lastOfEachName : List RecordDecl → List RecordDecl
  | [] => []
  | r :: later => if ReplacedBy later r then lastOfEachName later else r :: lastOfEachName later

@[simp] theorem not_replacedBy_nil (r : RecordDecl) : ¬ ReplacedBy [] r := by
  simp [ReplacedBy]

@[simp] theorem replacedBy_cons {later : List RecordDecl} :
    ReplacedBy (s :: later) r ↔ s.name = r.name ∨ ReplacedBy later r := by
  simp [ReplacedBy]

/-- To be replaced by a run that starts with `new` is to be of its name or
to be replaced by the rest. -/
theorem filter_not_replacedBy_cons (new : RecordDecl) (later records : List RecordDecl) :
    records.filter (¬ ReplacedBy (new :: later) ·) =
      (records.filter fun old => old.name != new.name).filter (¬ ReplacedBy later ·) := by
  rw [List.filter_filter]
  apply List.filter_congr
  intro old _
  by_cases hname : new.name = old.name
  · simp [hname]
  · simp [hname, Ne.symm hname]

/-- A run keeps the records that it does not replace, and after them stands
the last registration of each name. -/
theorem records_registerAll (c : Catalog) (rs : List Registration) :
    (c.registerAll rs).records =
      c.records.filter (¬ ReplacedBy (rs.filterMap (·.record?)) ·) ++
        lastOfEachName (rs.filterMap (·.record?)) := by
  induction rs generalizing c with
  | nil => simp [registerAll, lastOfEachName]
  | cons x rest ih =>
      rw [registerAll_cons, ih]
      cases x with
      | function f => rfl
      | record new =>
          have hnew : (c.register (.record new)).records =
              c.records.filter (fun old => old.name != new.name) ++ [new] := rfl
          have hrecords : (Registration.record new :: rest).filterMap (·.record?) =
              new :: rest.filterMap (·.record?) := rfl
          rw [hrecords, filter_not_replacedBy_cons, hnew, List.filter_append, List.append_assoc,
            lastOfEachName]
          -- the new record stays only if the rest of the run does not replace it
          by_cases hreplaced : ReplacedBy (rest.filterMap (·.record?)) new
          · simp [hreplaced]
          · simp [hreplaced]

theorem functions_registerAll (c : Catalog) (rs : List Registration) :
    (c.registerAll rs).functions = c.functions ++ rs.filterMap (·.function?) := by
  induction rs generalizing c with
  | nil => simp [registerAll]
  | cons x rest ih =>
      rw [registerAll_cons, ih]
      cases x with
      | record new => rfl
      | function f => simp [register, addFunction, Registration.function?]

/-- After every step of a run from nothing, types registered by their own
declaration included, the names are distinct; the records are the last
registration of each name, in order; the functions are all that were
registered, in order. One more registration of a record puts it at the end
as it is, in place of the one of its name. -/
theorem registerAll_keeps_last_of_each_name (rs : List Registration) :
    (∀ n, (empty.registerAll (rs.take n)).NamesDistinct) ∧
    (empty.registerAll rs).records = lastOfEachName (rs.filterMap (·.record?)) ∧
    (empty.registerAll rs).functions = rs.filterMap (·.function?) ∧
    ∀ r, (empty.registerAll (rs ++ [.record r])).records =
      (lastOfEachName (rs.filterMap (·.record?))).filter (fun old => old.name != r.name) ++ [r] := by
  have hrecords : (empty.registerAll rs).records = lastOfEachName (rs.filterMap (·.record?)) := by
    rw [records_registerAll]
    rfl
  refine ⟨fun n => namesDistinct_empty.registerAll _, hrecords, ?_, fun r => ?_⟩
  · rw [functions_registerAll]
    rfl
  · have hlast : empty.registerAll (rs ++ [.record r]) = (empty.registerAll rs).addRecord r :=
      List.foldl_concat ..
    rw [hlast, addRecord, hrecords]

example :
    (empty.registerAll [.ofType Declared.Car, .ofType Declared.Packet,
      .record { name := "car", fields := [⟨"weight", .primitive .float⟩] }]).records =
    [packetDecl, { name := "car", fields := [⟨"weight", .primitive .float⟩] }] := by
  decide

end DeclSchema.Catalog
