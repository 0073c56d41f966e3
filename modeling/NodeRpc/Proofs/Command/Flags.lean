import Mathlib.Data.Nat.Bitwise
import NodeRpc.Command.Flags
import NodeRpc.Proofs.Text.HexDigits

/-!
# The text of a flag set

A text of flags has parts between bars: names, each for one bit, and then perhaps a number for all
other bits.  What is named and what is left for the number is found by taking the named flags off
one after the other; as no two of them share a bit, this is the same as asking for each of them
whether the set has it.

* `Hex.Writes`             the digits of a number in lower-case hexadecimal;
* `UsageFlags.peel_eq`     taking flags off one after the other;
* `UsageFlags.parts_text`  the parts of a text;
* `UsageFlags.ext_named`   a set is known by its named flags and its other bits;
* `UsageFlags.text_reads`  what the text of a set tells.
-/

namespace NodeRpc

/-! ## Hexadecimal numbers -/

namespace Hex

/-- The number that digits write, the highest first. -/
def number? (digits : List Char) : Option Nat :=
  digits.foldlM (fun n c => (digitValue? c).map (16 * n + ·)) 0

/-- Whether digits write a number: in lower case, and without a zero before them. -/
structure Writes (digits : List Char) (n : Nat) : Prop where
  lower : ∀ c ∈ digits, c ∈ "0123456789abcdef".toList
  leading : n ≠ 0 → digits.head? ≠ some '0'
  value : number? digits = some n

theorem digitChar_mem : ∀ n, n < 16 → Nat.digitChar n ∈ "0123456789abcdef".toList := by decide

theorem digitChar_ne_zero : ∀ n, n < 16 → n ≠ 0 → Nat.digitChar n ≠ '0' := by decide

theorem Writes.concat {digits : List Char} {n d : Nat} (h : Writes digits n) (hn : n ≠ 0)
    (hd : d < 16) : Writes (digits ++ [Nat.digitChar d]) (16 * n + d) where
  lower c hc := by
    rcases List.mem_append.1 hc with hc | hc
    · exact h.lower c hc
    · rw [List.mem_singleton.1 hc]
      exact digitChar_mem d hd
  leading _ := by
    cases digits with
    | nil => exact absurd (Option.some.inj h.value).symm hn
    | cons c digits => exact h.leading hn
  value := by
    have hvalue := h.value
    unfold number? at hvalue ⊢
    rw [List.foldlM_append, hvalue]
    show ((digitValue? (Nat.digitChar d)).map (16 * n + ·) >>= pure) = _
    rw [digitValue?_digitChar d hd]
    rfl

theorem writes_toDigits (n : Nat) : Writes (Nat.toDigits 16 n) n := by
  induction n using Nat.strongRecOn with
  | ind n ih =>
    rw [Nat.toDigits_eq_if (by decide)]
    split
    · rename_i hlt
      refine ⟨fun c hc => ?_, fun hn => ?_, ?_⟩
      · rw [List.mem_singleton.1 hc]
        exact digitChar_mem n hlt
      · exact fun h => digitChar_ne_zero n hlt hn (Option.some.inj h)
      · show ((digitValue? (Nat.digitChar n)).map (16 * 0 + ·) >>= pure) = _
        rw [digitValue?_digitChar n hlt, Nat.mul_zero]
        show some (0 + n) = some n
        rw [Nat.zero_add]
    · rename_i hge
      have hconcat := (ih (n / 16) (by omega)).concat (d := n % 16) (by omega) (by omega)
      rwa [Nat.div_add_mod] at hconcat

end Hex

namespace UsageFlags

/-! ## Bits -/

theorem and_or_left (x a b : UInt32) : x &&& (a ||| b) = (x &&& a) ||| (x &&& b) :=
  UInt32.toBitVec_inj.1 BitVec.and_or_distrib_left

def SingleBit (b : UInt32) : Prop := ∃ i, b.toNat = 2 ^ i

theorem SingleBit.ne_zero {b : UInt32} (hb : SingleBit b) : b ≠ 0 := by
  obtain ⟨i, hi⟩ := hb
  rintro rfl
  exact (Nat.two_pow_pos i).ne hi

theorem SingleBit.and_cases {b : UInt32} (hb : SingleBit b) (x : UInt32) :
    x &&& b = 0 ∨ x &&& b = b := by
  obtain ⟨i, hi⟩ := hb
  have hand : (x &&& b).toNat = (x.toNat.testBit i).toNat * 2 ^ i := by
    rw [UInt32.toNat_and, hi, Nat.and_two_pow]
  cases hbit : x.toNat.testBit i with
  | false =>
    rw [hbit, Bool.toNat_false, Nat.zero_mul] at hand
    exact .inl (UInt32.toNat_inj.1 hand)
  | true =>
    rw [hbit, Bool.toNat_true, Nat.one_mul, ← hi] at hand
    exact .inr (UInt32.toNat_inj.1 hand)

theorem SingleBit.and_eq_of_ne_zero_iff {b x y : UInt32} (hb : SingleBit b)
    (h : x &&& b ≠ 0 ↔ y &&& b ≠ 0) : x &&& b = y &&& b := by
  rcases hb.and_cases x with hx | hx
  · rw [hx, not_not.1 fun hy => h.2 hy hx]
  · have hy : y &&& b ≠ 0 := h.1 fun hzero => hb.ne_zero (hx.symm.trans hzero)
    rw [hx, (hb.and_cases y).resolve_left hy]

theorem named_single : ∀ flag ∈ named, SingleBit flag.1.bits := by
  simp only [named, List.forall_mem_cons]
  exact ⟨⟨0, rfl⟩, ⟨1, rfl⟩, ⟨2, rfl⟩, List.forall_mem_nil _⟩

theorem named_disjoint : named.Pairwise fun a b => a.1.bits &&& b.1.bits = 0 := by decide

theorem contains_iff {flag : UsageFlags} (hflag : SingleBit flag.bits) (f : UsageFlags) :
    f.contains flag = true ↔ f.bits &&& flag.bits ≠ 0 := by
  unfold contains
  rw [beq_iff_eq]
  rcases hflag.and_cases f.bits with hand | hand
  · rw [hand]
    exact iff_of_false hflag.ne_zero.symm (not_not_intro rfl)
  · rw [hand]
    exact iff_of_true rfl hflag.ne_zero

theorem union_and_ne_zero (a b flag : UsageFlags) :
    (a.union b).bits &&& flag.bits ≠ 0 ↔ a.bits &&& flag.bits ≠ 0 ∨ b.bits &&& flag.bits ≠ 0 := by
  show (a.bits ||| b.bits) &&& flag.bits ≠ 0 ↔ _
  rw [UInt32.and_comm, and_or_left, UInt32.and_comm flag.bits, UInt32.and_comm flag.bits, ne_eq,
    UInt32.or_eq_zero_iff, not_and_or]

/-- A set is known by which named flags it has, and by its other bits. -/
theorem ext_named {a b : UsageFlags}
    (hnamed : ∀ flag ∈ named, a.bits &&& flag.1.bits ≠ 0 ↔ b.bits &&& flag.1.bits ≠ 0)
    (hrest : a.unknownBits = b.unknownBits) : a = b := by
  have hparts : ∀ x : UInt32,
      x = (x &&& 1) ||| ((x &&& 2) ||| ((x &&& 4) ||| (x &&& ~~~7))) := by
    intro x
    rw [← and_or_left, ← and_or_left, ← and_or_left]
    exact UInt32.and_neg_one.symm
  have hsame : ∀ flag ∈ named, a.bits &&& flag.1.bits = b.bits &&& flag.1.bits :=
    fun flag hflag => (named_single flag hflag).and_eq_of_ne_zero_iff (hnamed flag hflag)
  simp only [named, List.forall_mem_cons] at hsame
  obtain ⟨h1, h2, h4, _⟩ := hsame
  have hbits : a.bits = b.bits := by
    rw [hparts a.bits, hparts b.bits]
    exact congrArg₂ _ h1 (congrArg₂ _ h2 (congrArg₂ _ h4 hrest))
  exact congrArg mk hbits

/-! ## One flag after the other -/

/-- The names of the flags that are taken off a set of bits, one after the other, and the bits that
are left. -/
def peel : List (UsageFlags × String) → UInt32 → List String × UInt32
  | [], rest => ([], rest)
  | flag :: flags, rest =>
    if rest &&& flag.1.bits = flag.1.bits then
      let (names, left) := peel flags (rest &&& ~~~flag.1.bits)
      (flag.2 :: names, left)
    else peel flags rest

theorem and_not_of_disjoint {x b : UInt32} (h : x &&& b = 0) : x &&& ~~~b = x := by
  calc
    x &&& ~~~b = (x &&& ~~~b) ||| (x &&& b) := by rw [h, UInt32.or_zero]
    _ = x &&& (~~~b ||| b) := (and_or_left x _ _).symm
    _ = x := by rw [UInt32.not_or_self, UInt32.and_neg_one]

theorem contains_and_not {b : UInt32} {flag : UsageFlags} (h : b &&& flag.bits = 0) (x : UInt32) :
    contains ⟨x &&& ~~~b⟩ flag = contains ⟨x⟩ flag := by
  have hand : x &&& ~~~b &&& flag.bits = x &&& flag.bits := by
    rw [UInt32.and_assoc, UInt32.and_comm (~~~b), and_not_of_disjoint (UInt32.and_comm b _ ▸ h)]
  unfold contains
  rw [hand]

/-- Flags without a common bit are taken off as if each were the first. -/
theorem peel_eq {flags : List (UsageFlags × String)}
    (hsingle : ∀ flag ∈ flags, SingleBit flag.1.bits)
    (hdisjoint : flags.Pairwise fun a b => a.1.bits &&& b.1.bits = 0) (rest : UInt32) :
    peel flags rest = ((flags.filter fun flag => contains ⟨rest⟩ flag.1).map Prod.snd,
      flags.foldl (fun left flag => left &&& ~~~flag.1.bits) rest) := by
  induction flags generalizing rest with
  | nil => rfl
  | cons flag flags ih =>
    obtain ⟨hflag, hsingle⟩ := List.forall_mem_cons.1 hsingle
    obtain ⟨hflags, hdisjoint⟩ := List.pairwise_cons.1 hdisjoint
    -- either way the flags behind this one find the bits that they ask for as they were
    by_cases hhas : rest &&& flag.1.bits = flag.1.bits
    · have hcontains : contains ⟨rest⟩ flag.1 = true := beq_iff_eq.2 hhas
      have hsame : flags.filter (fun g => contains ⟨rest &&& ~~~flag.1.bits⟩ g.1)
          = flags.filter fun g => contains ⟨rest⟩ g.1 :=
        List.filter_congr fun g hg => contains_and_not (hflags g hg) rest
      rw [peel, if_pos hhas, ih hsingle hdisjoint, hsame, List.filter_cons, if_pos hcontains]
      rfl
    · have hcontains : ¬ contains ⟨rest⟩ flag.1 = true := fun h => hhas (beq_iff_eq.1 h)
      have hand : rest &&& flag.1.bits = 0 := (hflag.and_cases rest).resolve_right hhas
      rw [peel, if_neg hhas, ih hsingle hdisjoint, List.filter_cons, if_neg hcontains,
        List.foldl_cons, and_not_of_disjoint hand]

theorem peel_named (f : UsageFlags) : peel named f.bits = (f.names, f.unknownBits) := by
  have hleft : named.foldl (fun left flag => left &&& ~~~flag.1.bits) f.bits = f.unknownBits := by
    show f.bits &&& ~~~1 &&& ~~~2 &&& ~~~4 = f.bits &&& ~~~7
    rw [UInt32.and_assoc, UInt32.and_assoc]
    rfl
  rw [peel_eq named_single named_disjoint, hleft]
  rfl

/-! ## Texts -/

theorem hexText_eq (bits : UInt32) :
    (hexText bits).toList = '0' :: 'x' :: Nat.toDigits 16 bits.toNat := by
  unfold hexText
  rw [String.toList_append]
  exact congrArg (['0', 'x'] ++ ·) String.toList_ofList

theorem hexText_inj {a b : UInt32} (h : hexText a = hexText b) : a = b := by
  have hdigits := congrArg String.toList h
  rw [hexText_eq, hexText_eq, List.cons_inj_right, List.cons_inj_right] at hdigits
  have ha := (Hex.writes_toDigits a.toNat).value
  rw [hdigits, (Hex.writes_toDigits b.toNat).value] at ha
  exact UInt32.toNat_inj.1 (Option.some.inj ha).symm

theorem hexText_ne_name (bits : UInt32) : ∀ flag ∈ named, flag.2 ≠ hexText bits := by
  intro flag hflag heq
  have hfirst : ∀ flag ∈ named, flag.2.toList.head? = some 'U' := by decide
  have hhead := hfirst flag hflag
  rw [heq, hexText_eq] at hhead
  cases hhead

def parts (text : String) : List String := (text.toList.splitOn '|').map String.ofList

theorem parts_intercalate {texts : List String} (h : ∀ s ∈ texts, '|' ∉ s.toList)
    (hne : texts ≠ []) : parts ("|".intercalate texts) = texts := by
  have hsplit : ("|".intercalate texts).toList.splitOn '|' = texts.map String.toList := by
    rw [String.toList_intercalate]
    refine List.splitOn_intercalate '|' (fun cs hcs => ?_) (by simpa using hne)
    obtain ⟨s, hs, rfl⟩ := List.mem_map.1 hcs
    exact h s hs
  unfold parts
  rw [hsplit, List.map_map]
  exact (List.map_congr_left fun s _ => String.ofList_toList).trans (List.map_id texts)

theorem bar_not_mem_hexText (bits : UInt32) : '|' ∉ (hexText bits).toList := by
  rw [hexText_eq]
  intro h
  have hlower := (Hex.writes_toDigits bits.toNat).lower
  rcases List.mem_cons.1 h with h | h
  · cases h
  rcases List.mem_cons.1 h with h | h
  · cases h
  · exact absurd (hlower _ h) (by decide)

theorem bar_not_mem_names {f : UsageFlags} {name : String} (h : name ∈ f.names) :
    '|' ∉ name.toList := by
  have hall : ∀ flag ∈ named, '|' ∉ flag.2.toList := by decide
  obtain ⟨flag, hflag, rfl⟩ := List.mem_map.1 h
  exact hall flag (List.mem_filter.1 hflag).1

theorem mem_names_iff {f : UsageFlags} {flag : UsageFlags × String} (hflag : flag ∈ named) :
    flag.2 ∈ f.names ↔ f.bits &&& flag.1.bits ≠ 0 := by
  have hinj : ∀ a ∈ named, ∀ b ∈ named, a.2 = b.2 → a = b := by decide
  rw [← contains_iff (named_single flag hflag)]
  constructor
  · intro h
    obtain ⟨g, hg, hname⟩ := List.mem_map.1 h
    obtain ⟨hmem, hcontains⟩ := List.mem_filter.1 hg
    rwa [hinj g hmem flag hflag hname] at hcontains
  · intro h
    exact List.mem_map_of_mem (List.mem_filter.2 ⟨hflag, h⟩)

theorem eq_none_of_names_eq_nil {f : UsageFlags} (hnames : f.names = [])
    (hrest : f.hasUnknownBits = false) : f = none := by
  refine ext_named (fun flag hflag => ?_) (bne_eq_false_iff_eq.1 hrest)
  rw [← mem_names_iff hflag, hnames]
  exact iff_of_false List.not_mem_nil (not_not_intro UInt32.zero_and)

/-- What a text has behind the names: the number of the bits without a name, if there are any or
there is nothing else. -/
def others (f : UsageFlags) : List String :=
  if f.bits = 0 ∨ f.hasUnknownBits = true then [hexText f.unknownBits] else []

theorem text_eq (f : UsageFlags) : f.text = "|".intercalate (f.names ++ f.others) := by
  unfold text others
  by_cases hzero : f.bits = 0
  · obtain rfl : f = none := congrArg mk hzero
    rw [if_pos hzero, if_pos (.inl hzero)]
    exact String.intercalate_singleton.symm
  · rw [if_neg hzero]
    simp only [hzero, false_or]

theorem parts_text (f : UsageFlags) : parts f.text = f.names ++ f.others := by
  rw [text_eq]
  refine parts_intercalate (fun s hs => ?_) fun hnil => ?_
  · rcases List.mem_append.1 hs with hs | hs
    · exact bar_not_mem_names hs
    · unfold others at hs
      split at hs
      · rw [List.mem_singleton.1 hs]
        exact bar_not_mem_hexText _
      · cases hs
  · obtain ⟨hnames, hothers⟩ := List.append_eq_nil_iff.1 hnil
    unfold others at hothers
    split at hothers
    · cases hothers
    · rename_i hnot
      obtain ⟨hzero, hrest⟩ := not_or.1 hnot
      exact hzero (congrArg bits (eq_none_of_names_eq_nil hnames (Bool.not_eq_true _ ▸ hrest)))

/-- A text has the name of a flag as a part exactly when the set has its bit. -/
theorem mem_parts_iff (f : UsageFlags) {flag : UsageFlags × String} (hflag : flag ∈ named) :
    flag.2 ∈ parts f.text ↔ f.bits &&& flag.1.bits ≠ 0 := by
  rw [parts_text, List.mem_append, mem_names_iff hflag]
  refine or_iff_left fun hmem => ?_
  unfold others at hmem
  split at hmem
  · exact hexText_ne_name _ flag hflag (List.mem_singleton.1 hmem)
  · cases hmem

theorem unknownBits_eq_of_others {a b : UsageFlags} (h : a.others = b.others) :
    a.unknownBits = b.unknownBits := by
  have hnone : ∀ f : UsageFlags, ¬ (f.bits = 0 ∨ f.hasUnknownBits = true) → f.unknownBits = 0 :=
    fun f hf => bne_eq_false_iff_eq.1 (eq_false_of_ne_true fun hrest => hf (.inr hrest))
  unfold others at h
  split at h
  · split at h
    · exact hexText_inj (List.cons.inj h).1
    · cases h
  · rename_i ha
    split at h
    · cases h
    · rename_i hb
      rw [hnone a ha, hnone b hb]

theorem text_inj {a b : UsageFlags} (h : a.text = b.text) : a = b := by
  have hnamed : ∀ flag ∈ named, a.bits &&& flag.1.bits ≠ 0 ↔ b.bits &&& flag.1.bits ≠ 0 := by
    intro flag hflag
    rw [← mem_parts_iff a hflag, ← mem_parts_iff b hflag, h]
  have hnames : a.names = b.names := by
    refine congrArg (List.map Prod.snd) (List.filter_congr fun flag hflag => ?_)
    have hsingle := named_single flag hflag
    rw [Bool.eq_iff_iff, contains_iff hsingle, contains_iff hsingle]
    exact hnamed flag hflag
  have hothers : a.others = b.others := by
    have hparts := congrArg parts h
    rw [parts_text, parts_text, hnames] at hparts
    exact List.append_cancel_left hparts
  exact ext_named hnamed (unknownBits_eq_of_others hothers)

/-- The text of a set determines it.  It names a flag exactly when the set has its bit, in the order
of the flags: those that are taken off one after the other.  What is left is written behind them as
one number, in lower-case hexadecimal and not zero, exactly when there are unknown bits; only the
empty set is written as zero.  The text of a union names the flags that either text names. -/
theorem text_reads :
    (∀ a b : UsageFlags, a.text = b.text → a = b)
    ∧ (∀ f : UsageFlags, f.text = "0x0" ↔ f = none)
    ∧ (∀ f : UsageFlags, ∀ flag ∈ named, flag.2 ∈ parts f.text ↔ f.bits &&& flag.1.bits ≠ 0)
    ∧ (∀ f : UsageFlags, f ≠ none → ∃ shown rest, parts f.text = shown ++ rest
        ∧ shown.Sublist ["UFWalletOnly", "UFWebsocketOnly", "UFNotification"]
        ∧ peel named f.bits = (shown, f.bits &&& ~~~7)
        ∧ (f.hasUnknownBits = false → rest = [])
        ∧ (f.hasUnknownBits = true → ∃ digits n, rest = ["0x" ++ String.ofList digits]
          ∧ Hex.Writes digits n ∧ n = (f.bits &&& ~~~7).toNat ∧ n ≠ 0))
    ∧ ∀ a b : UsageFlags, ∀ flag ∈ named,
        flag.2 ∈ parts (a.union b).text ↔ flag.2 ∈ parts a.text ∨ flag.2 ∈ parts b.text := by
  refine ⟨fun a b => text_inj, fun f => ⟨fun h => text_inj (h.trans ?_), ?_⟩,
    fun f flag hflag => mem_parts_iff f hflag, fun f hf => ?_, fun a b flag hflag => ?_⟩
  · decide
  · rintro rfl
    decide
  · have hzero : f.bits ≠ 0 := fun h => hf (congrArg mk h)
    refine ⟨f.names, f.others, parts_text f, List.filter_sublist.map Prod.snd, peel_named f,
      fun hrest => ?_, fun hrest => ?_⟩
    · exact if_neg (not_or.2 ⟨hzero, ne_true_of_eq_false hrest⟩)
    · refine ⟨_, _, if_pos (.inr hrest), Hex.writes_toDigits _, rfl, fun h => ?_⟩
      exact bne_iff_ne.1 hrest (UInt32.toNat_inj.1 h)
  · rw [mem_parts_iff _ hflag, mem_parts_iff _ hflag, mem_parts_iff _ hflag, union_and_ne_zero]

/-- Bits without a name are not written apart from each other. -/
example : text ⟨0x1d⟩ = "UFWalletOnly|UFNotification|0x18" := by decide +kernel

end UsageFlags

end NodeRpc
