import Groundplan.Dialect.Registry
import Groundplan.Proofs.Entries
import Groundplan.Proofs.Placement

/-!
# The errors of reading a document

A text that is no document, and a tree in which a span is missing, are both an `Error.unreadable`
that names the document (`readHcl_fails`).  All dialects that come with the library read HCL documents
(`select_builtin`).
-/

namespace Groundplan

/-! ### Documents -/

namespace Dialect

/-- **Unreadable documents**: reading an HCL document fails with an error that names it. -/
theorem readHcl_fails (path text : String) :
    FailsWith (fun e => ∃ message, e = .unreadable path message) (readHcl path text) := by
  unfold readHcl
  split
  · exact (Hcl.BodyDef.lower_fails path _).mono fun e he => ⟨_, he⟩
  · exact .error ⟨_, rfl⟩

end Dialect

namespace Registry

open Entries

variable {r : Registry} {d : Dialect} {name version : String}

/-- Registering a dialect changes what is under its name and version only. -/
theorem find?_register (name' version' : String) :
    (r.register name version d).find? name' version'
      = if name' = name ∧ version' = version then some d else r.find? name' version' := by
  unfold Registry.find? register
  by_cases hname : name' = name
  · subst hname
    rw [find?_insert_self, Option.bind_some]
    by_cases hversion : version' = version
    · subst hversion
      rw [find?_insert_self, if_pos ⟨rfl, rfl⟩]
    · rw [find?_insert_of_ne hversion, if_neg fun h => hversion h.2]
      cases Entries.find? r.dialects name' with
      | none => rfl
      | some versions => rfl
  · rw [find?_insert_of_ne hname, if_neg fun h => hname h.1]

/-- A dialect that is selected is one that is registered. -/
theorem find?_of_select {asked : Option String} (h : r.select name asked = .ok d) :
    ∃ version, r.find? name version = some d := by
  unfold select at h
  split at h
  · cases h
  · rename_i version _
    split at h
    · cases h
    · rename_i found hfound
      exact ⟨version, by rw [hfound, Except.ok.inj h]⟩

/-- Every dialect that comes with the library is a version of Terraform. -/
theorem select_builtin {asked : Option String} (h : builtin.select name asked = .ok d) :
    ∃ version, d = .terraform version := by
  obtain ⟨version, hfind⟩ := find?_of_select h
  unfold builtin at hfind
  rw [find?_register, find?_register] at hfind
  split_ifs at hfind
  · exact ⟨"v12", (Option.some.inj hfind).symm⟩
  · exact ⟨"v14", (Option.some.inj hfind).symm⟩
  · cases hfind

end Registry
end Groundplan
