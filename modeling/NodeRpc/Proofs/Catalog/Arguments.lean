import NodeRpc.Proofs.Catalog.RoundTrip

/-!
# Commands of the catalog built from arguments

* `Command.HoldsNullWord`       an optional text is the word `null`;
* `Command.NamesReadableBlock`  a block is named by a hash that reads as JSON of a block;
* `Catalog.misread_iff`         only these two are taken for something else.

So the slots of every other command make that command again.
-/

namespace NodeRpc

namespace Command

/-- Whether some optional text of a command is the word `null`. -/
def HoldsNullWord (c : Command) : Prop :=
  ∃ f slot, (f, slot) ∈ c.type.fields.zip c.slots
    ∧ f.optional = true ∧ f.schema = .string ∧ slot = some (.string "null")

/-- Whether a command asks for the statistics of a block by a hash that reads as JSON of an integer
in the signed 64-bit range or of a string. -/
def NamesReadableBlock (c : Command) : Prop :=
  ∃ text stats j, c = ⟨Catalog.getBlockStats, (.hash text, stats, ())⟩
    ∧ Json.ofText? text = some j ∧ (j.int64? ≠ none ∨ ∃ word, j = .string word)

end Command

/-- The slots of a command of the catalog are misread in two ways only. -/
theorem Catalog.misread_iff {c : Command} (hc : c.type ∈ Catalog.types) :
    Misread c.type.fields c.slots ↔ c.HoldsNullWord ∨ c.NamesReadableBlock := by
  constructor
  · rintro ⟨f, slot, hmem, hm⟩
    cases hm with
    | word ho hs => exact .inl ⟨f, _, hmem, ho, hs, rfl⟩
    | block hs hj hblock =>
      rename_i text j
      have hfield : f ∈ c.type.fields := (List.of_mem_zip hmem).1
      have htype : c.type = getBlockStats := by
        by_contra hne
        exact (sound_of_mem hc).blocks hne f hfield hs
      obtain ⟨t, value⟩ := c
      cases htype
      obtain ⟨block, stats, ⟨⟩⟩ := value
      -- the hash can only be the first parameter, the other is a list
      rcases List.mem_cons.1 (show _ ∈ _ :: _ from hmem) with heq | hmem
      · have hslot : Json.string text = HashOrHeight.encode block :=
          Option.some.inj (Prod.mk.inj heq).2
        cases block with
        | height n => cases hslot
        | hash s =>
          cases hslot
          exact .inr ⟨text, stats, j, rfl, hj, hblock⟩
      · rw [(Prod.mk.inj (List.mem_singleton.1 hmem)).1] at hs
        cases hs
  · rintro (⟨f, slot, hmem, ho, hs, rfl⟩ | ⟨text, stats, j, rfl, hj, hblock⟩)
    · exact ⟨f, _, hmem, .word ho hs⟩
    · exact ⟨_, _, List.mem_cons_self, .block rfl hj hblock⟩

namespace Standard

/-- A command of the catalog is built from its slots as arguments, and written as the same request,
unless an optional text is the word `null` or a block is named by a hash that reads as JSON of a
block; then it is another request. -/
theorem newCommand_arguments {c : Command} (hc : c.type ∈ Catalog.types) (hf : c.FloatsFinite)
    (ha : c.AmountsSurvive) :
    ∃ b, newCommand c.type.method (arguments c.slots) = .ok b
      ∧ (∀ version id, ∃ q, marshalRequest version id c = .ok q
        ∧ (marshalRequest version id b = .ok q ↔ ¬ c.HoldsNullWord ∧ ¬ c.NamesReadableBlock))
      ∧ (¬ c.HoldsNullWord → ¬ c.NamesReadableBlock → b = c.settle) := by
  obtain ⟨r, d, hr, hsound, hd, htype, hmethod, _⟩ := descriptor_of_mem hc
  have hsc := Catalog.sound_of_mem hc
  have hl := Catalog.legible_of_mem hc
  obtain ⟨given, b, hargs, hb, hslots, hsettle⟩ :=
    Command.coerceArgs_slots hsc.typed hl hsc.steady hf ha
  have hbtype : c.type = b.type := Command.type_of_ofSlots hb
  have hbf : b.FloatsFinite := Command.floatsFinite_of_ofSlots hl hb
  rw [Catalog.misread_iff hc, not_or] at hslots hsettle
  refine ⟨b, ?_, fun version id => ⟨_, marshalRequest_eq hc version id, ?_⟩,
    fun hnull hblock => hsettle ⟨hnull, hblock⟩⟩
  · have hlength : (arguments c.slots).length = d.fields.length := by
      rw [arguments, List.length_map, (Command.writable hsc.typed).length, ← htype]
      rfl
    rw [← htype] at hargs hb
    rw [← hmethod]
    exact bind_eq_ok.2 ⟨r, hr, Registry.newCommand_eq_ok.2
      ⟨d, given, hsound.lookup_of_mem hd, hsound.checkCount_length hd hlength, hargs, hb⟩⟩
  · rw [marshalRequest_eq (hbtype ▸ hc), ← hbtype, ← hslots]
    constructor
    · intro h
      have hparams : paramsOf b.slots = paramsOf c.slots :=
        (Request.mk.inj (Except.ok.inj h)).2.2.1
      have hbw := Command.writable (c := b) (hbtype ▸ hsc.typed)
      refine paramsOf_inj ?_ (Command.null_not_mem_slots (hbtype ▸ hsc.typed) (hbtype ▸ hl) hbf)
        (Command.null_not_mem_slots hsc.typed hl hf) hparams
      rw [hbw.length, (Command.writable hsc.typed).length, hbtype]
    · intro h
      rw [h]

/-- A hash that reads as a height is taken for the height. -/
theorem newCommand_arguments_height :
    let c : Command := ⟨Catalog.getBlockStats, (.hash "12", none, ())⟩
    ∃ b q, newCommand "getblockstats" [.string "12", .null] = .ok b
      ∧ marshalRequest .v1 .null c = .ok q ∧ marshalRequest .v1 .null b ≠ .ok q := by
  intro c
  have hc : c.type ∈ Catalog.types := by decide +kernel
  have hf : c.FloatsFinite := ⟨trivial, fun _ h => (nomatch h), trivial⟩
  have ha : c.AmountsSurvive := ⟨trivial, fun _ h => (nomatch h), trivial⟩
  obtain ⟨b, hb, hsame, _⟩ := newCommand_arguments hc hf ha
  obtain ⟨q, hq, hiff⟩ := hsame .v1 .null
  have hnumber : Json.ofText? "12" = some (.ofInteger (w := .int64) ⟨12, by decide, by decide⟩) := by
    decide +kernel
  have hblock : c.NamesReadableBlock := ⟨"12", none, _, rfl, hnumber, .inl (by decide)⟩
  exact ⟨b, q, hb, hq, fun h => (hiff.1 h).2 hblock⟩

end Standard

end NodeRpc
