import Mathlib.Data.List.Basic
import Mathlib.Data.List.Find
import Mathlib.Data.List.Induction
import Scaffold.Blueprint.Fixed
import Scaffold.Blueprint.Recorded
import Scaffold.Product
import Scaffold.Registry

/-!
# What a registry holds

Of the blueprints offered to a registry, those of the program before those of the project, the first
one of each name is registered. It alone is asked whether it can be used, once, and its answer is
kept; the others only leave a warning each. All ways to look up a name find the first blueprint
offered under it.
-/

namespace Scaffold

section Steady

variable {β γ ω : Type}

/-- Blueprints that keep their names when they are asked whether they can be used. The question only
looks at them. -/
class SteadyNames (β ω : Type) [Blueprint β ω] : Prop where
  /-- The name is the one from before. -/
  name_availability (world : ω) (blueprint : β) :
    Declared.name (Blueprint.availability world blueprint).2 = Declared.name blueprint

instance [FileHost ω] : SteadyNames FixedBlueprint ω where
  name_availability _ _ := rfl

instance [FileHost ω] [HasDisk ω] : SteadyNames SetupBlueprint ω where
  name_availability _ _ := rfl

instance [FileHost ω] [HasDisk ω] : SteadyNames FeatureBlueprint ω where
  name_availability _ _ := rfl

instance [FileHost ω] [HasDisk ω] : SteadyNames ManifestBlueprint ω where
  name_availability _ _ := rfl

instance [Blueprint β ω] [Blueprint γ ω] [SteadyNames β ω] [SteadyNames γ ω] :
    SteadyNames (β ⊕ γ) ω where
  name_availability world
    | .inl blueprint => SteadyNames.name_availability world blueprint
    | .inr blueprint => SteadyNames.name_availability world blueprint

instance [Blueprint β ω] [SteadyNames β ω] : SteadyNames (Recorded β) ω where
  name_availability world recorded := SteadyNames.name_availability world recorded.blueprint

/-- A blueprint to which no call was made. -/
def Recorded.fresh (blueprint : β) : Recorded β := ⟨blueprint, []⟩

/-- The blueprints, asked in another way whether they can be used. -/
@[reducible]
def Blueprint.answering [asked : Blueprint β ω] (answer : ω → β → Bool × β) : Blueprint β ω :=
  { asked with availability := answer }

end Steady

namespace Registry

variable {β ω : Type}

/-- The blueprints offered to a registry, in order, with their origins. -/
def offers (builtIn project : List β) : List (Origin × β) :=
  builtIn.map (Origin.builtIn, ·) ++ project.map (Origin.project, ·)

/-- Blueprints that are reworked are offered in the same order. -/
theorem offers_map {γ : Type} (rework : β → γ) (builtIn project : List β) :
    offers (builtIn.map rework) (project.map rework) =
      (offers builtIn project).map (Prod.map id rework) := by
  simp only [offers, List.map_append, List.map_map]
  rfl

section Firsts

variable [Declared β]

/-- The name of a blueprint that is offered. -/
def offerName (offer : Origin × β) : String := Declared.name offer.2

/-- Whether no earlier offer has the name of the one at a place. -/
def isFirst (all : List (Origin × β)) (placed : (Origin × β) × Nat) : Bool :=
  (all.take placed.2).all fun earlier => offerName earlier != offerName placed.1

/-- The offers of which no earlier one has the name. -/
def firsts (all : List (Origin × β)) : List (Origin × β) :=
  (all.zipIdx.filter (isFirst all)).map Prod.fst

/-- The offers of which an earlier one has the name. -/
def repeats (all : List (Origin × β)) : List (Origin × β) :=
  (all.zipIdx.filter fun placed => !isFirst all placed).map Prod.fst

variable {all : List (Origin × β)}

/-- Later offers do not matter. -/
theorem isFirst_append {placed : (Origin × β) × Nat} (h : placed ∈ all.zipIdx)
    (more : List (Origin × β)) : isFirst (all ++ more) placed = isFirst all placed := by
  have hplace : placed.2 ≤ all.length := Nat.le_of_lt (List.snd_lt_of_mem_zipIdx h)
  rw [isFirst, List.take_append_of_le_length hplace, isFirst]

/-- Whether no offer has the name of another one. -/
def isNew (all : List (Origin × β)) (offer : Origin × β) : Bool :=
  all.all fun earlier => offerName earlier != offerName offer

/-- The last offer is the first of its name if the name is new. -/
theorem isFirst_last (all : List (Origin × β)) (offer : Origin × β) :
    isFirst (all ++ [offer]) (offer, all.length) = isNew all offer := by
  rw [isFirst, List.take_left, isNew]

/-- Offers that are chosen by whether they are first, with one offer more behind them. -/
theorem chosen_concat (choice : Bool → Bool) (all : List (Origin × β)) (offer : Origin × β) :
    ((all ++ [offer]).zipIdx.filter fun placed =>
        choice (isFirst (all ++ [offer]) placed)).map Prod.fst =
      (all.zipIdx.filter fun placed => choice (isFirst all placed)).map Prod.fst ++
        if choice (isNew all offer) then [offer] else [] := by
  have hearlier : (all.zipIdx.filter fun placed => choice (isFirst (all ++ [offer]) placed)) =
      all.zipIdx.filter fun placed => choice (isFirst all placed) :=
    List.filter_congr fun placed hplaced => congrArg choice (isFirst_append hplaced [offer])
  rw [List.zipIdx_append, List.filter_append, hearlier, List.map_append, List.zipIdx_singleton,
    Nat.zero_add, List.filter_singleton, isFirst_last]
  cases choice (isNew all offer) <;> rfl

/-- One offer more is a first one if its name is new. -/
theorem firsts_concat (all : List (Origin × β)) (offer : Origin × β) :
    firsts (all ++ [offer]) = firsts all ++ if isNew all offer then [offer] else [] :=
  chosen_concat id all offer

/-- One offer more is a repeat if its name is not new. -/
theorem repeats_concat (all : List (Origin × β)) (offer : Origin × β) :
    repeats (all ++ [offer]) = repeats all ++ if isNew all offer then [] else [offer] := by
  have hchosen := chosen_concat not all offer
  rw [repeats, hchosen, repeats]
  cases isNew all offer <;> rfl

/-- A name is new if no offer of it is found. -/
theorem isNew_eq_isNone (all : List (Origin × β)) (offer : Origin × β) :
    isNew all offer = (all.find? (offerName · == offerName offer)).isNone := by
  rw [Bool.eq_iff_iff, isNew, List.all_eq_true, Option.isNone_iff_eq_none, List.find?_eq_none]
  simp only [bne_iff_ne, beq_iff_eq, ne_eq]

/-- The first offer of a name is the first of all offers with that name. -/
theorem find?_firsts (all : List (Origin × β)) (name : String) :
    (firsts all).find? (offerName · == name) = all.find? (offerName · == name) := by
  induction all using List.reverseRecOn with
  | nil => rfl
  | append_singleton all offer ih =>
    rw [firsts_concat, List.find?_append, List.find?_append, ih, isNew_eq_isNone]
    cases hfound : all.find? (offerName · == offerName offer) with
    | none => rfl
    | some earlier =>
      -- The name of a repeated offer is found before it, and another name not at it.
      rw [Option.isNone_some, if_neg Bool.false_ne_true]
      by_cases hname : offerName offer = name
      · rw [← hname, hfound]
        rfl
      · rw [List.find?_singleton, if_neg (mt beq_iff_eq.mp hname)]
        rfl

end Firsts

section Mapped

variable {γ : Type} [Declared β] [Declared γ] {rework : β → γ}

/-- A blueprint is as new under its name as its reworked form. -/
theorem isNew_map (h : ∀ blueprint, Declared.name (rework blueprint) = Declared.name blueprint)
    (all : List (Origin × β)) (offer : Origin × β) :
    isNew (all.map (Prod.map id rework)) (Prod.map id rework offer) = isNew all offer := by
  rw [isNew, isNew, List.all_map]
  refine congrArg _ (funext fun earlier => ?_)
  simp only [Function.comp_apply, offerName, Prod.map_snd, h]

/-- Reworking blueprints leaves it to their names which ones come first. -/
theorem firsts_map (h : ∀ blueprint, Declared.name (rework blueprint) = Declared.name blueprint)
    (all : List (Origin × β)) :
    firsts (all.map (Prod.map id rework)) = (firsts all).map (Prod.map id rework) := by
  induction all using List.reverseRecOn with
  | nil => rfl
  | append_singleton all offer ih =>
    rw [List.map_append, List.map_singleton, firsts_concat, firsts_concat, ih, isNew_map h,
      List.map_append]
    cases isNew all offer <;> rfl

end Mapped

section Registering

variable [Blueprint β ω] {world : ω} {all : List (Origin × β)}

/-- The entry of a blueprint that was asked whether it can be used. -/
def entryOf (world : ω) (offer : Origin × β) : RegistryEntry β :=
  let (isActive, blueprint) := Blueprint.availability world offer.2
  ⟨blueprint, offer.1, isActive⟩

/-- The entry of a blueprint with its record, which tells that it was asked once. -/
def recordedEntryOf (world : ω) (offer : Origin × β) : RegistryEntry (Recorded β) :=
  let (isActive, blueprint) := Blueprint.availability world offer.2
  ⟨⟨blueprint, [.availability (offerName offer)]⟩, offer.1, isActive⟩

/-- The registry of offers, taken one after the other. -/
def ofOffers (world : ω) (all : List (Origin × β)) : Registry β :=
  all.foldl (fun registry offer => add world offer.1 registry offer.2) empty

/-- A registry of blueprints is one of their offers. -/
theorem ofBlueprints_eq (world : ω) (builtIn project : List β) :
    ofBlueprints world builtIn project = ofOffers world (offers builtIn project) := by
  rw [ofOffers, offers, List.foldl_append, List.foldl_map, List.foldl_map]
  rfl

/-- One offer more is added behind the others. -/
theorem ofOffers_concat (world : ω) (all : List (Origin × β)) (offer : Origin × β) :
    ofOffers world (all ++ [offer]) = add world offer.1 (ofOffers world all) offer.2 := by
  rw [ofOffers, List.foldl_append]
  rfl

/-- Being asked leaves a blueprint its name. -/
def KeepsName (world : ω) (offer : Origin × β) : Prop :=
  Declared.name (Blueprint.availability world offer.2).2 = offerName offer

/-- The entries of offers are looked up as the offers are. -/
theorem find?_map_entryOf (h : ∀ offer ∈ all, KeepsName world offer) (name : String) :
    (all.map (entryOf world)).find? (·.name == name) =
      (all.find? (offerName · == name)).map (entryOf world) := by
  rw [List.find?_map]
  refine congrArg _ (List.find?_congr fun offer hoffer => ?_)
  have hname : (entryOf world offer).name = offerName offer := h offer hoffer
  rw [Function.comp_apply, hname]

/-- The first offer of each name is registered, and every other one leaves a warning. -/
theorem ofOffers_eq (h : ∀ offer ∈ firsts all, KeepsName world offer) :
    ofOffers world all =
      ⟨(firsts all).map (entryOf world),
        (repeats all).map fun offer => duplicateWarning (offerName offer)⟩ := by
  induction all using List.reverseRecOn with
  | nil => rfl
  | append_singleton all offer ih =>
    rw [firsts_concat] at h ⊢
    obtain ⟨hearlier, -⟩ := List.forall_mem_append.mp h
    -- A name is taken as soon as an earlier offer has it, whether that one is registered or not.
    have hfound : ((ofOffers world all).find? (offerName offer)).isSome = !isNew all offer := by
      rw [ih hearlier, find?, find?_map_entryOf hearlier, find?_firsts, Option.isSome_map,
        isNew_eq_isNone, Option.not_isNone]
    rw [ofOffers_concat, add, ← offerName, hfound, ih hearlier, repeats_concat]
    cases isNew all offer with
    | true => simp [entryOf]
    | false => simp

/-- The answers of offers that are not registered do not matter. -/
theorem ofOffers_answering {answer : ω → β → Bool × β}
    (h : ∀ offer ∈ firsts all, KeepsName world offer)
    (hsame : ∀ offer ∈ firsts all, answer world offer.2 = Blueprint.availability world offer.2) :
    @ofOffers β ω (Blueprint.answering answer) world all = ofOffers world all := by
  have hanswers : ∀ offer ∈ firsts all, @KeepsName β ω (Blueprint.answering answer) world offer := by
    intro offer hoffer
    change Declared.name (answer world offer.2).2 = offerName offer
    rw [hsame offer hoffer]
    exact h offer hoffer
  rw [ofOffers_eq h]
  refine (@ofOffers_eq β ω (Blueprint.answering answer) world all hanswers).trans ?_
  refine congrArg (Registry.mk · _) (List.map_congr_left fun offer hoffer => ?_)
  change RegistryEntry.mk (answer world offer.2).2 offer.1 (answer world offer.2).1 = _
  rw [hsame offer hoffer]
  rfl

end Registering

section Lookups

variable [Declared β]

/-- Taking a blueprint out takes the one that is found. -/
theorem take_eq_get (registry : Registry β) (name : String) :
    registry.take name = registry.get name := by
  rw [take, get, find?, List.find?_eq_map_findFinIdx?_getElem]
  cases registry.entries.findFinIdx? (·.name == name) <;> rfl

/-- What all lookups of a name find in a registry: the blueprint, and what was noted of it, which is
where it comes from and whether it could be used; or nothing, and the name is unknown. -/
def Finds (registry : Registry β) (name : String) (found : Option (RegistryEntry β)) : Prop :=
  registry.find? name = found ∧
    registry.get name = (match found with
      | some entry => .ok entry
      | none => .error (.unknown name)) ∧
    registry.metadata name = (match found with
      | some entry => .ok ⟨entry.origin, entry.isActive⟩
      | none => .error (.unknown name)) ∧
    registry.take name = match found with
      | some entry => .ok entry
      | none => .error (.unknown name)

/-- The lookups agree. -/
theorem finds_iff {registry : Registry β} {name : String} {found : Option (RegistryEntry β)} :
    registry.Finds name found ↔ registry.find? name = found := by
  refine ⟨And.left, ?_⟩
  rintro rfl
  refine ⟨rfl, rfl, ?_, take_eq_get registry name⟩
  rw [metadata, get]
  cases registry.find? name <;> rfl

end Lookups

section Holding

variable [Blueprint β ω] {world : ω} {all : List (Origin × β)} {registry : Registry β}

/-- What a registry holds of the blueprints that were offered to it. -/
structure HoldsFirsts (world : ω) (all : List (Origin × β)) (registry : Registry β) : Prop where
  /-- The first one of each name is registered, with its origin and its answer. -/
  entries : registry.entries = (firsts all).map (entryOf world)
  /-- Each other one leaves a warning. -/
  warnings : registry.warnings = (repeats all).map fun offer => duplicateWarning (offerName offer)
  /-- A name finds the first one that has it. -/
  finds (name : String) :
    registry.Finds name ((all.find? (offerName · == name)).map (entryOf world))
  /-- Those that can be used are the registered ones that answered so. -/
  active : registry.active =
    ((firsts all).filter fun offer => (Blueprint.availability world offer.2).1).map (entryOf world)

/-- A registry holds the first offer of each name. -/
theorem ofOffers_holdsFirsts (h : ∀ offer ∈ firsts all, KeepsName world offer) :
    HoldsFirsts world all (ofOffers world all) := by
  have hall := ofOffers_eq h
  refine ⟨congrArg entries hall, congrArg warnings hall, fun name => finds_iff.mpr ?_, ?_⟩
  · rw [hall, find?, find?_map_entryOf h, find?_firsts]
  · rw [hall, active, List.filter_map]
    rfl

variable [SteadyNames β ω]

/-- Blueprints keep their names when they are asked whether they can be used. -/
theorem keepsName (world : ω) (offer : Origin × β) : KeepsName world offer :=
  SteadyNames.name_availability world offer.2

/-- A registry of blueprints holds the first one of each name. -/
theorem ofBlueprints_holdsFirsts (world : ω) (builtIn project : List β) :
    HoldsFirsts world (offers builtIn project) (ofBlueprints world builtIn project) := by
  rw [ofBlueprints_eq]
  exact ofOffers_holdsFirsts fun offer _ => keepsName world offer

/-- With a record kept of the calls, each registered blueprint has been asked once. -/
theorem entries_ofBlueprints_fresh (world : ω) (builtIn project : List β) :
    (ofBlueprints world (builtIn.map Recorded.fresh) (project.map Recorded.fresh)).entries =
      (firsts (offers builtIn project)).map (recordedEntryOf world) := by
  have hname : ∀ blueprint : β,
      Declared.name (Recorded.fresh blueprint) = Declared.name blueprint := fun _ => rfl
  rw [(ofBlueprints_holdsFirsts world _ _).entries, offers_map, firsts_map hname, List.map_map]
  rfl

/-- Of each name, a registry keeps the first blueprint, the program's before the project's. It asks
this one once, and what the others would answer does not matter. -/
theorem ofBlueprints_keeps_first_of_each_name (world : ω) (builtIn project : List β) :
    HoldsFirsts world (offers builtIn project) (ofBlueprints world builtIn project) ∧
      (ofBlueprints world (builtIn.map Recorded.fresh) (project.map Recorded.fresh)).entries =
        (firsts (offers builtIn project)).map (recordedEntryOf world) ∧
      ∀ answer : ω → β → Bool × β,
        (∀ offer ∈ firsts (offers builtIn project),
          answer world offer.2 = Blueprint.availability world offer.2) →
        @ofBlueprints β ω (Blueprint.answering answer) world builtIn project =
          ofBlueprints world builtIn project := by
  refine ⟨ofBlueprints_holdsFirsts world builtIn project,
    entries_ofBlueprints_fresh world builtIn project, fun answer hsame => ?_⟩
  calc @ofBlueprints β ω (Blueprint.answering answer) world builtIn project
      = @ofOffers β ω (Blueprint.answering answer) world (offers builtIn project) :=
        @ofBlueprints_eq β ω (Blueprint.answering answer) world builtIn project
    _ = ofOffers world (offers builtIn project) :=
        ofOffers_answering (fun offer _ => keepsName world offer) hsame
    _ = ofBlueprints world builtIn project := (ofBlueprints_eq world builtIn project).symm

end Holding

/-- A fixed blueprint that only has a name and an answer. -/
def plainBlueprint (name : String) (active : Bool) : FixedBlueprint :=
  ⟨name, "", [], active, [], none, none, none⟩

/-- Blueprints of a program, two of them with one name. -/
def collidingBuiltIns : List FixedBlueprint :=
  [plainBlueprint "feature" true, plainBlueprint "initialize" false, plainBlueprint "feature" false]

/-- Blueprints of a project, one of them with a name of the program and two with one name. -/
def collidingLocals : List FixedBlueprint :=
  [plainBlueprint "service" true, plainBlueprint "feature" false, plainBlueprint "service" false]

/-- Of six blueprints with three names, the first one of each is kept; the project's service can be
used, and what is noted of it says so. -/
theorem collidingBlueprints_keep_first_of_each_name :
    let host := MemoryHost.withFiles []
    let registry := ofBlueprints host collidingBuiltIns collidingLocals
    let feature := plainBlueprint "feature" true
    let setup := plainBlueprint "initialize" false
    let service := plainBlueprint "service" true
    registry.entries =
        [⟨feature, .builtIn, true⟩, ⟨setup, .builtIn, false⟩, ⟨service, .project, true⟩] ∧
      registry.warnings = ["Ignoring duplicate blueprint 'feature'",
        "Ignoring duplicate blueprint 'feature'", "Ignoring duplicate blueprint 'service'"] ∧
      registry.Finds "service" (some ⟨service, .project, true⟩) ∧
      registry.Finds "missing" none ∧
      registry.metadata "service" = .ok ⟨.project, true⟩ ∧
      registry.metadata "initialize" = .ok ⟨.builtIn, false⟩ ∧
      registry.metadata "missing" = .error (.unknown "missing") ∧
      registry.active = [⟨feature, .builtIn, true⟩, ⟨service, .project, true⟩] ∧
      (ofBlueprints host (collidingBuiltIns.map Recorded.fresh)
        (collidingLocals.map Recorded.fresh)).entries.map (·.blueprint.calls) =
          [[.availability "feature"], [.availability "initialize"], [.availability "service"]] ∧
      @ofBlueprints _ _ (Blueprint.answering fun _ blueprint =>
        (blueprint.name != "initialize", blueprint)) host collidingBuiltIns collidingLocals =
          registry := by
  obtain ⟨holds, asked, unasked⟩ := ofBlueprints_keeps_first_of_each_name
    (MemoryHost.withFiles []) collidingBuiltIns collidingLocals
  refine ⟨holds.entries, holds.warnings, holds.finds "service", holds.finds "missing",
    (holds.finds "service").2.2.1, (holds.finds "initialize").2.2.1, (holds.finds "missing").2.2.1,
    holds.active, congrArg (List.map _) asked, unasked _ fun offer hoffer => ?_⟩
  -- Of the blueprints that are dropped, the first and the second one would answer otherwise.
  have hfirsts : offer ∈ [(Origin.builtIn, plainBlueprint "feature" true),
      (.builtIn, plainBlueprint "initialize" false), (.project, plainBlueprint "service" true)] :=
    hoffer
  simp only [List.mem_cons, List.not_mem_nil, or_false] at hfirsts
  obtain rfl | rfl | rfl := hfirsts <;> rfl

end Registry

namespace Product

variable {ω : Type} [FileHost ω] [HasDisk ω]

/-- The registry of a run keeps the first blueprint of each name, its own before the project's. -/
theorem discover_keeps_firsts {product : Product} {builtIns : List ProgramBlueprint}
    {config : ProjectConfig} {world : ω} {registry : Registry ProgramBlueprint}
    (h : product.discover builtIns config world = .ok registry) :
    ∃ project, registry.entries =
        (Registry.firsts (Registry.offers builtIns project)).map (Registry.entryOf world) ∧
      ∀ name, registry.Finds name (((Registry.offers builtIns project).find?
        (Registry.offerName · == name)).map (Registry.entryOf world)) := by
  have hkept (project : List ProgramBlueprint) :=
    Registry.ofBlueprints_holdsFirsts world builtIns project
  unfold discover at h
  split at h
  · cases h
    exact ⟨[], (hkept []).entries, (hkept []).finds⟩
  · split at h
    case h_1 blueprints warnings _ =>
      cases h
      have holds := hkept (blueprints.map .inr)
      exact ⟨blueprints.map .inr, holds.entries,
        fun name => Registry.finds_iff.mpr (holds.finds name).1⟩
    case h_2 => cases h

end Product

end Scaffold
