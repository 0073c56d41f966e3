import NodeRpc.Proofs.Schema.Unions
import NodeRpc.Schema.Codec

/-!
# Regular schemas

`Schema.regular` is the condition on a schema under which its values read back: words and keys are
distinct, floats are doubles, and no value of a member that may be unset is written as null.  It is
decided by evaluation, so a table of fields is checked once.
-/

namespace NodeRpc

/-- Whether null leaves a member unset. -/
def Rule.unsets : Rule → Bool
  | optional => true
  | lenient => true
  | nullable => true
  | _ => false

mutual

/-- Whether decoding undoes encoding, apart from what is lost at the leaves. -/
def Schema.regular : Schema → Bool
  | .float f => f = .double
  | .list element => element.regular
  | .map value => value.regular
  | .choice _ first others => decide (first :: others).Nodup
  | .union u => u.regular
  | .record _ members => decide members.keys.Nodup && members.regular
  | _ => true

def Members.regular : Members → Bool
  | .nil => true
  | .cons _ rule schema rest =>
    (!rule.unsets || !schema.accepts .null) && schema.regular && rest.regular

end

namespace Members

variable {key : String} {rule : Rule} {schema : Schema} {rest : Members}

theorem regular_head (h : (cons key rule schema rest).regular = true) : schema.regular = true := by
  rw [regular, Bool.and_eq_true, Bool.and_eq_true] at h
  exact h.1.2

theorem regular_rest (h : (cons key rule schema rest).regular = true) : rest.regular = true := by
  rw [regular, Bool.and_eq_true] at h
  exact h.2

theorem accepts_null (h : (cons key rule schema rest).regular = true) (hr : rule.unsets = true) :
    schema.accepts .null = false := by
  rw [regular, Bool.and_eq_true, Bool.and_eq_true, hr] at h
  simpa using h.1.1

end Members

namespace Schema

theorem members_regular {name : String} {ms : Members} (h : (record name ms).regular = true) :
    ms.regular = true := by
  rw [regular, Bool.and_eq_true] at h
  exact h.2

theorem keys_nodup {name : String} {ms : Members} (h : (record name ms).regular = true) :
    ms.keys.Nodup := by
  rw [regular, Bool.and_eq_true] at h
  exact of_decide_eq_true h.1

theorem isNull_of_decode {s : Schema} (hs : s.accepts .null = false) {j : Json} {v : s.Val}
    (h : s.decode j = .ok v) : j.isNull = false := by
  cases j with
  | null =>
    rw [accepts, h] at hs
    cases hs
  | bool b => rfl
  | number n => rfl
  | string t => rfl
  | array items => rfl
  | object members => rfl

end Schema

end NodeRpc
