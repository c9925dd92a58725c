import DynamicMembers.Analyzer
import DynamicMembers.Proofs.Property.Loading
/-!
# Invalidation — nothing of what was asked before is left

An analyzer remembers a schema, decisions about properties and answers about methods, and it counts its loads.  No load
depends on that count, so two memories that differ in it alone answer alike and go on to differ in it alone.
Invalidating leaves the count and nothing else: whatever was asked before, and over whatever files, the answers that
follow are those of an analyzer newly built (`answers_invalidate`).
-/
namespace DynamicMembers

/-- A question to an analyzer, or the order to forget. -/
inductive AnalyzerCall where
  | hasProperty (c : ClassInfo) (property : String)
  | getProperty (c : ClassInfo) (property : String)
  | lookupProperty (c : ClassInfo) (property : String)
  | hasMethod (c : ClassInfo) (method : String)
  | getMethod (c : ClassInfo) (method : String)
  | resolveMethod (c : ClassInfo) (method : String)
  | schema
  | invalidate

inductive AnalyzerAnswer where
  | existence (answer : Answer Bool)
  | property (answer : Answer ModelProperty)
  | outcome (answer : Answer PropertyLookup)
  | reflection (answer : Answer MethodReflection)
  | resolution (answer : Answer (Option MethodResolution))
  | schema (answer : Answer Schema.Registry)
  | invalidated
  deriving DecidableEq

namespace PropertyState

/-- Two states differ in the number of loads at most. -/
structure Agrees (s t : PropertyState) : Prop where
  registry : s.registry = t.registry
  decisions : s.decisions = t.decisions

/-- Two outcomes are one answer, with states that differ in the number of loads at most. -/
def Alike {α : Type} (x y : Answer α × PropertyState) : Prop := x.1 = y.1 ∧ x.2.Agrees y.2

variable {source : SchemaSource} {s t : PropertyState}

/-- **Over a source that does not count, loading keeps two states in agreement.** -/
theorem Agrees.schema (hsource : ∀ i j, source i = source j) (h : s.Agrees t) :
    Alike (s.schema source) (t.schema source) := by
  obtain ⟨r, i, d⟩ := s
  obtain ⟨r', j, d'⟩ := t
  obtain ⟨rfl, rfl⟩ : r = r' ∧ d = d' := ⟨h.registry, h.decisions⟩
  cases r with
  | some r =>
    rw [schema_loaded, schema_loaded]
    exact ⟨rfl, h⟩
  | none =>
    cases hload : source i with
    | ok r =>
      rw [schema_of_ok hload, schema_of_ok ((hsource j i).trans hload)]
      exact ⟨rfl, rfl, rfl⟩
    | error e =>
      rw [schema_of_error hload, schema_of_error ((hsource j i).trans hload)]
      exact ⟨rfl, rfl, rfl⟩

end PropertyState

namespace PropertyRules

open PropertyState (Alike)

variable (rules : PropertyRules) {source : SchemaSource} {s t : PropertyState}

theorem lookup_agrees (hsource : ∀ i j, source i = source j) (h : s.Agrees t) (c : ClassInfo) (property : String) :
    Alike (rules.lookup source s c property) (rules.lookup source t c property) := by
  cases hc : rules.claimed c property with
  | some reason =>
    rw [lookup_of_claimed hc, lookup_of_claimed hc]
    exact ⟨rfl, h⟩
  | none =>
    obtain ⟨hschema, hstate⟩ := h.schema hsource
    rw [lookup_of_unclaimed hc, lookup_of_unclaimed hc, hschema]
    exact ⟨rfl, hstate⟩

theorem hasProperty_agrees (hsource : ∀ i j, source i = source j) (h : s.Agrees t) (c : ClassInfo)
    (property : String) : Alike (rules.hasProperty source s c property) (rules.hasProperty source t c property) := by
  have hlookup := rules.lookup_agrees hsource h c property
  unfold hasProperty
  generalize rules.lookup source s c property = x at hlookup
  generalize rules.lookup source t c property = y at hlookup
  obtain ⟨a, ⟨r, i, d⟩⟩ := x
  obtain ⟨b, ⟨r', j, d'⟩⟩ := y
  obtain ⟨rfl, rfl, rfl⟩ : a = b ∧ r = r' ∧ d = d' := ⟨hlookup.1, hlookup.2.registry, hlookup.2.decisions⟩
  cases a with
  | error e => exact ⟨rfl, rfl, rfl⟩
  | ok l => cases l <;> exact ⟨rfl, rfl, rfl⟩

theorem getProperty_agrees (hsource : ∀ i j, source i = source j) (h : s.Agrees t) (c : ClassInfo)
    (property : String) : Alike (rules.getProperty source s c property) (rules.getProperty source t c property) := by
  have hschema := h.schema hsource
  unfold getProperty
  rw [← h.decisions]
  cases s.decisions.get? (decisionKey c property) with
  | some pair => exact ⟨rfl, h.registry, rfl⟩
  | none =>
    by_cases hid : property = idName
    · simp only [if_pos hid]
      generalize s.schema source = x at hschema
      generalize t.schema source = y at hschema
      obtain ⟨a, s'⟩ := x
      obtain ⟨b, t'⟩ := y
      obtain ⟨hanswer, hstate⟩ := hschema
      obtain rfl : a = b := hanswer
      cases a with
      | error e => exact ⟨rfl, hstate⟩
      | ok r =>
        simp only
        cases r.column? c.tableName idName <;> exact ⟨rfl, hstate⟩
    · simp only [if_neg hid]
      exact ⟨rfl, h⟩

end PropertyRules

/-- Two memories differ in the number of loads at most. -/
structure AnalyzerMemory.Agrees (m n : AnalyzerMemory) : Prop where
  properties : m.properties.Agrees n.properties
  methods : m.methods = n.methods

/-- **Invalidating leaves what a new analyzer remembers**, but for the number of loads. -/
theorem AnalyzerMemory.invalidate_agrees (m : AnalyzerMemory) : m.invalidate.Agrees {} := ⟨⟨rfl, rfl⟩, rfl⟩

namespace Analyzer

/-- The answer to a call while the files are as given, and what is remembered afterwards. -/
def perform (a : Analyzer) (tree : Files.Tree) (m : AnalyzerMemory) : AnalyzerCall → AnalyzerAnswer × AnalyzerMemory
  | .hasProperty c property => let (answer, m) := a.hasProperty tree m c property; (.existence answer, m)
  | .getProperty c property => let (answer, m) := a.getProperty tree m c property; (.property answer, m)
  | .lookupProperty c property => let (answer, m) := a.lookupProperty tree m c property; (.outcome answer, m)
  | .hasMethod c method => let (answer, m) := a.hasMethod m c method; (.existence answer, m)
  | .getMethod c method => let (answer, m) := a.getMethod m c method; (.reflection answer, m)
  | .resolveMethod c method => let (answer, m) := a.resolveMethod m c method; (.resolution answer, m)
  | .schema => let (answer, m) := a.schema tree m; (.schema answer, m)
  | .invalidate => (.invalidated, m.invalidate)

/-- The answers to calls made one after the other, each while the files are as given with it. -/
def answers (a : Analyzer) : AnalyzerMemory → List (Files.Tree × AnalyzerCall) → List AnalyzerAnswer
  | _, [] => []
  | m, (tree, call) :: calls => (a.perform tree m call).1 :: answers a (a.perform tree m call).2 calls

def memoryAfter (a : Analyzer) (m : AnalyzerMemory) (calls : List (Files.Tree × AnalyzerCall)) : AnalyzerMemory :=
  calls.foldl (fun m call => (a.perform call.1 m call.2).2) m

variable {a b : Analyzer} {m n : AnalyzerMemory}

/-- **Memories in agreement answer a call alike and stay in agreement.** -/
theorem perform_agrees (a : Analyzer) (tree : Files.Tree) (h : m.Agrees n) (call : AnalyzerCall) :
    (a.perform tree m call).1 = (a.perform tree n call).1 ∧
      (a.perform tree m call).2.Agrees (a.perform tree n call).2 := by
  -- a load reads the files as they are, however many loads were made before it
  have hsource : ∀ i j, a.source tree i = a.source tree j := fun _ _ => rfl
  cases call with
  | hasProperty c property =>
    obtain ⟨hanswer, hstate⟩ := a.properties.hasProperty_agrees hsource h.properties c property
    exact ⟨congrArg AnalyzerAnswer.existence hanswer, hstate, h.methods⟩
  | getProperty c property =>
    obtain ⟨hanswer, hstate⟩ := a.properties.getProperty_agrees hsource h.properties c property
    exact ⟨congrArg AnalyzerAnswer.property hanswer, hstate, h.methods⟩
  | lookupProperty c property =>
    obtain ⟨hanswer, hstate⟩ := a.properties.lookup_agrees hsource h.properties c property
    exact ⟨congrArg AnalyzerAnswer.outcome hanswer, hstate, h.methods⟩
  | schema =>
    obtain ⟨hanswer, hstate⟩ := h.properties.schema hsource
    exact ⟨congrArg AnalyzerAnswer.schema hanswer, hstate, h.methods⟩
  | hasMethod c method | getMethod c method | resolveMethod c method =>
    simp only [perform, hasMethod, getMethod, resolveMethod, h.methods]
    exact ⟨trivial, h.properties, rfl⟩
  | invalidate => exact ⟨rfl, ⟨rfl, rfl⟩, rfl⟩

theorem answers_agrees (a : Analyzer) : ∀ (calls : List (Files.Tree × AnalyzerCall)) {m n : AnalyzerMemory},
    m.Agrees n → a.answers m calls = a.answers n calls
  | [], _, _, _ => rfl
  | (tree, call) :: calls, m, n, h => by
    obtain ⟨hanswer, hmemory⟩ := a.perform_agrees tree h call
    rw [answers, answers, hanswer, answers_agrees a calls hmemory]

theorem build_of_pattern {root : String} {settings : Settings} {pattern : Pattern} (index : ClassIndex)
    (hpattern : Schema.filePattern settings.filePattern = .ok pattern) :
    build root settings index = .ok ⟨.ofSettings index settings, .standard index settings.methods PhpDoc.resolve,
      settings.migrationsDirectory root, pattern⟩ := by
  unfold build
  rw [hpattern]
  rfl

/-- **Invalidating forgets everything.**  After any calls, made while the files changed in any way, an analyzer that is
invalidated answers further calls as one newly built of the same project, settings and classes does over the same
files. -/
theorem answers_invalidate {root : String} {settings : Settings} {index : ClassIndex}
    (ha : build root settings index = .ok a) (hb : build root settings index = .ok b)
    (past further : List (Files.Tree × AnalyzerCall)) :
    a.answers (a.memoryAfter {} past).invalidate further = b.answers {} further := by
  obtain rfl : a = b := Except.ok.inj (ha.symm.trans hb)
  exact a.answers_agrees further (AnalyzerMemory.invalidate_agrees _)

/-- Users, who have a table by convention and the methods of a query mixed in. -/
def shopIndex : ClassIndex := .ofList
  [{ name := "Model" }, { name := "User", parent := some "Model", mixins := ["Query"] },
   { name := "Query", methods := .ofList [("latest", { name := "latest", declaringClass := "Query" })] }]

def shopSettings : Settings := { modelClass := "Model", migrationsPath := "db" }

def shopUser : ClassInfo := { name := "User", parent := some "Model", mixins := ["Query"] }

/-- One migration, which makes the table of users with their addresses. -/
def emailFiles : Files.Tree := ⟨.ofList [(["db"], .directory), (["db", "1_users.php"], .file (some
  "<?php return new class \x7b function up() \x7b Schema::create('users', fn($t) => $t->string('email')); \x7d\x7d;"))]⟩

def noFiles : Files.Tree := {}

def phpSuffix : Pattern := (Pattern.ofText? "(?i)\\.php$").getD .nothing

def shopRules : Analyzer :=
  ⟨.ofSettings shopIndex shopSettings, .standard shopIndex shopSettings.methods PhpDoc.resolve,
    shopSettings.migrationsDirectory "", phpSuffix⟩

def shopPast : List (Files.Tree × AnalyzerCall) :=
  [(emailFiles, .hasProperty shopUser "email"), (emailFiles, .getMethod shopUser "latest"),
   (noFiles, .hasProperty shopUser "email"), (noFiles, .getMethod shopUser "oldest")]

def shopFurther : List (Files.Tree × AnalyzerCall) :=
  [(noFiles, .getProperty shopUser "email"), (noFiles, .hasProperty shopUser "email"),
   (noFiles, .hasMethod shopUser "latest")]

/-- The migration is removed behind the analyzer's back; it answers from what it remembers until it is invalidated. -/
theorem answers_invalidate_shop :
    build "" shopSettings shopIndex = .ok shopRules ∧
    shopRules.answers {} shopPast = [.existence (.ok true),
      .reflection (.ok (.staticForwarding (.native { name := "latest", declaringClass := "Query" }))),
      .existence (.ok true), .reflection (.error (.invalidState (.methodNotResolvable "User" "oldest")))] ∧
    shopRules.answers (shopRules.memoryAfter {} shopPast).invalidate shopFurther =
      [.property (.error (.invalidState (.propertyNotResolved "User" "email"))), .existence (.ok false),
       .existence (.ok true)] := by
  have hpattern : Schema.filePattern shopSettings.filePattern = .ok phpSuffix := by decide +kernel
  have hbuild : build "" shopSettings shopIndex = .ok shopRules := build_of_pattern shopIndex hpattern
  refine ⟨hbuild, by decide +kernel, ?_⟩
  rw [answers_invalidate hbuild hbuild]
  decide +kernel

end Analyzer
end DynamicMembers
