import DeclSchema.Proofs.Report

/-!
What the mapping reads of a catalog.

A catalog is read through references and in no other way: a type maps as
the record that its leaf names does, and a record maps as the records that
its fields name do. Two catalogs in which the fields of the first name the
same records (`FieldsAgree`) map a type alike if the type itself names the
same record in both. What else stands in the second catalog, and in which
order, is never looked at.
-/

namespace DeclSchema

open Catalog

variable {c d : Catalog} {visiting visiting' : List String} {t : FieldType} {r : RecordDecl}
  {f : FunctionDecl}

theorem mapEach_congr {fields : List FieldDecl}
    (h : ∀ f ∈ fields, mapType c visiting f.type = mapType d visiting' f.type) :
    mapEach c visiting fields = mapEach d visiting' fields :=
  follows_id.mapInOrder h

theorem mapFields_congr
    (h : ∀ f ∈ r.fields,
      mapType c (r.name :: visiting) f.type = mapType d (r.name :: visiting') f.type) :
    mapFields c visiting r = mapFields d visiting' r := by
  rw [mapFields_eq, mapFields_eq, mapEach_congr h]

/-- Every field of the first catalog names the same record in both. -/
def Catalog.FieldsAgree (c d : Catalog) : Prop :=
  ∀ r ∈ c.records, ∀ f ∈ r.fields, c.target? f.type = d.target? f.type

/-- A type that names the same record in both catalogs maps in both alike. -/
theorem mapType_congr (h : c.FieldsAgree d) (ht : c.target? t = d.target? t) :
    mapType c visiting t = mapType d visiting t := by
  induction visiting, t using visiting_induction (c := c) with
  | step visiting t ihrecords =>
      refine mapType_eq_of_reference fun name hleaf => ?_
      have hfind : c.find? name = d.find? name := by
        simpa only [target?, hleaf] using ht
      cases hname : c.find? name with
      | none =>
          rw [mapType_record_unresolved hname,
            mapType_record_unresolved (hfind.symm.trans hname)]
      | some r =>
          rw [mapType_record hname, mapType_record (hfind.symm.trans hname)]
          split
          · rfl
          · next hv =>
              -- the fields of the record stand in the first catalog, so they agree
              have hr := mem_of_find? hname
              have hfields : mapFields c visiting r = mapFields d visiting r :=
                mapFields_congr fun f hf => ihrecords r hr hv f hf (h r hr f hf)
              rw [hfields]

namespace Catalog

theorem recordSchema_congr (h : c.FieldsAgree d)
    (hr : ∀ f ∈ r.fields, c.target? f.type = d.target? f.type) :
    c.recordSchema r = d.recordSchema r := by
  have hfields : mapFields c [] r = mapFields d [] r :=
    mapFields_congr fun f hf => mapType_congr h (hr f hf)
  rw [recordSchema, recordSchema, hfields]

theorem recordFault_congr (h : c.recordSchema r = d.recordSchema r) :
    c.recordFault r = d.recordFault r := by
  rw [recordFault, recordFault, h]

theorem unmappedArgument_congr (h : c.FieldsAgree d) {arguments : List FieldDecl}
    (harguments : ∀ a ∈ arguments, c.target? a.type = d.target? a.type) (i : Nat) :
    c.unmappedArgument i arguments = d.unmappedArgument i arguments := by
  induction arguments generalizing i with
  | nil => rfl
  | cons a rest ih =>
      rw [List.forall_mem_cons] at harguments
      rw [unmappedArgument, unmappedArgument, mapType_congr h harguments.1, ih harguments.2]

theorem functionFault_congr (h : c.FieldsAgree d)
    (hf : ∀ t ∈ f.types, c.target? t = d.target? t) : c.functionFault f = d.functionFault f := by
  rw [FunctionDecl.types, List.forall_mem_append, List.forall_mem_map] at hf
  have hresult : f.result.map (mapType c []) = f.result.map (mapType d []) :=
    Option.map_congr fun t ht => mapType_congr h (hf.1 t (Option.mem_toList.mpr ht))
  rw [functionFault, functionFault, hresult, unmappedArgument_congr h hf.2]

end Catalog

end DeclSchema
