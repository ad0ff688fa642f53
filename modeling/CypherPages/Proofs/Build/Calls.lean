import CypherPages.Proofs.Build.DataAttribute
import CypherPages.Proofs.Build.Pass

/-! # Calls on a build

A host may take blocks through a build, ask about blocks, take numbers for itself, attach assets
and write the assets, in any order and as often as it likes. Whatever it does, the assets are
registered at most once and stay as they are, the numbers are issued one after the other, and
what is published of a block depends on what was done before only in its number. -/

namespace CypherPages

/-- A call on a build. -/
inductive Call
  | process (block : CodeBlock Text)
  | appliesTo (block : CodeBlock Text)
  | nextNumber
  | register (dependency : Dependency)
  | renderAssets

/-- What comes back from a call. -/
inductive Answer
  | processed (outcome : Except AssetError (CodeBlock Text))
  | applies (answer : Bool)
  | number (number : ℕ)
  /-- Whether it was this call that registered the assets. -/
  | registered (answer : Bool)
  | rendered (outcome : Except AssetError Text)

/-- A block with another number. -/
def CodeBlock.withNumber (block : CodeBlock Text) (number : ℕ) : CodeBlock Text :=
  { block with attributes := block.attributes.set DataAttribute.id (Text.decimal number) }

namespace BuildPass

def call (pass : BuildPass) : Call → Answer × BuildPass
  | .process block => (.processed (pass.process block).1, (pass.process block).2)
  | .appliesTo block => (.applies (pass.publishes block.classes), pass)
  | .nextNumber => (.number pass.issue.blockCount, pass.issue)
  | .register dependency => (.registered (!pass.assetsRegistered), pass.register dependency)
  | .renderAssets => (.rendered pass.renderAssets, pass)

/-- Calls with their answers, and the build after them. -/
def calls (pass : BuildPass) : List Call → List (Call × Answer) × BuildPass
  | [] => ([], pass)
  | call :: rest =>
    let (answer, next) := pass.call call
    let (answers, final) := next.calls rest
    ((call, answer) :: answers, final)

/-- The number that is issued by a call, as it stands in its answer: a number that was asked for,
or the number under which a block was published. -/
def issued? (pass : BuildPass) : Call × Answer → Option Text
  | (.nextNumber, .number number) => some (Text.decimal number)
  | (.process block, .processed (.ok out)) =>
    if pass.publishes block.classes then out.attributes.get? DataAttribute.id else none
  | _ => none

/-- The assets are registered exactly when there are assets, and they are so once. -/
structure Tidy (pass : BuildPass) : Prop where
  registered_iff : pass.assetsRegistered = true ↔ pass.dependencies ≠ []
  length_le : pass.dependencies.length ≤ 1

/-- What a build has become after calls that issued numbers. -/
structure Continues (pass : BuildPass) (numbers : List Text) (next : BuildPass) : Prop where
  format : next.format = pass.format
  environment : next.environment = pass.environment
  timeout : next.timeout = pass.timeout
  blockCount : next.blockCount = pass.blockCount + numbers.length
  numbers_eq : numbers =
    (List.range' (pass.blockCount + 1) numbers.length).map Text.decimal
  tidy : pass.Tidy → next.Tidy
  kept : pass.Tidy → pass.dependencies ≠ [] → next.dependencies = pass.dependencies

end BuildPass

/-! ### The number of a block -/

namespace CodeBlock

/-- Apart from the number, the data attributes of a block are the same under every number, and
none of them is a number. -/
theorem dataAttributes_cons (number : ℕ) (environment : Option Text) (source : Text) :
    dataAttributes number environment source =
      (DataAttribute.id, Text.decimal number) :: (dataAttributes 0 environment source).tail := rfl

theorem id_not_mem_tail (environment : Option Text) (source : Text) :
    DataAttribute.id ∉ (dataAttributes 0 environment source).tail.map Prod.fst := by
  obtain ⟨others, hothers, hnames⟩ := dataAttributes_eq 0 environment source
  have hendpoint : DataAttribute.id ≠ DataAttribute.endpoint := by decide
  rw [hothers, List.tail_cons, List.map_cons, List.mem_cons, not_or]
  exact ⟨hendpoint, fun hmem => (hnames _ hmem).2.1 rfl⟩

theorem attributes_publish (block : CodeBlock Text) (number : ℕ) (environment : Option Text) :
    (block.publish number environment).attributes =
      (block.attributes.set DataAttribute.id (Text.decimal number)).setAll
        (dataAttributes 0 environment block.text).tail := by
  rw [← Entries.setAll_cons, ← dataAttributes_cons]
  exact congrArg (Entries.setAll block.attributes) (List.map_id _)

/-- The number of a published block. -/
theorem get?_id_publish (block : CodeBlock Text) (number : ℕ) (environment : Option Text) :
    (block.publish number environment).attributes.get? DataAttribute.id =
      some (Text.decimal number) := by
  rw [attributes_publish, Entries.get?_setAll_of_not_mem (id_not_mem_tail _ _), Entries.get?_set,
    if_pos (beq_self_eq_true _)]

/-- A block that is published under one number differs from the block published under another
one in nothing but the number. -/
theorem withNumber_publish (block : CodeBlock Text) (number other : ℕ)
    (environment : Option Text) :
    (block.publish number environment).withNumber other = block.publish other environment := by
  have hattributes : ((block.publish number environment).withNumber other).attributes =
      (block.publish other environment).attributes := by
    rw [withNumber, attributes_publish, attributes_publish,
      Entries.set_setAll (id_not_mem_tail _ _) (Entries.mem_keys_set_self _ _ _),
      Entries.set_set]
  exact congrArg (fun attributes => { block.publish other environment with
    attributes := attributes }) hattributes

end CodeBlock

namespace BuildPass

/-! ### One call -/

theorem tidy_start (format : Text) (environment : Option Text) (timeout : Binary64) :
    (start format environment timeout).Tidy :=
  ⟨by simp [start], Nat.zero_le 1⟩

theorem Tidy.register {pass : BuildPass} (h : pass.Tidy) (dependency : Dependency) :
    (pass.register dependency).Tidy := by
  cases hregistered : pass.assetsRegistered with
  | true => rwa [register_eq_self hregistered]
  | false =>
      have hnone : pass.dependencies = [] := by
        by_contra hsome
        rw [h.registered_iff.mpr hsome] at hregistered
        cases hregistered
      rw [BuildPass.register, hregistered, if_neg Bool.false_ne_true, hnone]
      exact ⟨by simp, Nat.le_refl 1⟩

theorem Tidy.dependencies_register {pass : BuildPass} (h : pass.Tidy)
    (hsome : pass.dependencies ≠ []) (dependency : Dependency) :
    (pass.register dependency).dependencies = pass.dependencies := by
  rw [register_eq_self (h.registered_iff.mpr hsome)]

theorem Continues.refl (pass : BuildPass) : pass.Continues [] pass :=
  ⟨rfl, rfl, rfl, rfl, rfl, id, fun _ _ => rfl⟩

theorem Continues.register (pass : BuildPass) (dependency : Dependency) :
    pass.Continues [] (pass.register dependency) := by
  obtain ⟨hformat, henvironment, htimeout, hcount⟩ := pass.register_frame dependency
  exact ⟨hformat, henvironment, htimeout, hcount, rfl, fun h => h.register dependency,
    fun h hsome => h.dependencies_register hsome dependency⟩

theorem Continues.issue (pass : BuildPass) :
    pass.Continues [Text.decimal (pass.blockCount + 1)] pass.issue :=
  ⟨rfl, rfl, rfl, rfl, rfl, fun h => ⟨h.registered_iff, h.length_le⟩, fun _ _ => rfl⟩

theorem Continues.trans {pass middle next : BuildPass} {first rest : List Text}
    (hfirst : pass.Continues first middle) (hrest : middle.Continues rest next) :
    pass.Continues (first ++ rest) next := by
  refine ⟨hrest.format.trans hfirst.format, hrest.environment.trans hfirst.environment,
    hrest.timeout.trans hfirst.timeout, ?_, ?_, fun h => hrest.tidy (hfirst.tidy h), ?_⟩
  · rw [hrest.blockCount, hfirst.blockCount, List.length_append, Nat.add_assoc]
  · have hnumbers := hrest.numbers_eq
    rw [hfirst.blockCount, Nat.add_right_comm] at hnumbers
    rw [List.length_append, ← List.range'_append_1, List.map_append, ← hnumbers,
      ← hfirst.numbers_eq]
  · intro h hsome
    have hmiddle := hfirst.kept h hsome
    rw [hrest.kept (hfirst.tidy h) (hmiddle ▸ hsome), hmiddle]

theorem publishes_of_format {pass next : BuildPass} (h : next.format = pass.format)
    (classes : List Text) : next.publishes classes = pass.publishes classes := by
  rw [publishes, publishes, h]

/-- What a call does to a build. -/
theorem Continues.call (pass : BuildPass) (call : Call) :
    pass.Continues (pass.issued? (call, (pass.call call).1)).toList (pass.call call).2 := by
  cases call with
  | process block =>
      cases hpublishes : pass.publishes block.classes with
      | false =>
          simp only [BuildPass.call, process_of_not_publishes hpublishes, issued?, hpublishes,
            Bool.false_eq_true, ite_false]
          exact .refl pass
      | true =>
          cases hdependency : Dependency.forQueries pass.timeout pass.environment with
          | error error =>
              simp only [BuildPass.call, process_of_error hpublishes hdependency, issued?]
              exact .refl pass
          | ok dependency =>
              simp only [BuildPass.call, process_of_ok hpublishes hdependency, issued?,
                hpublishes, ite_true, CodeBlock.get?_id_publish]
              have hissue := Continues.issue (pass.register dependency)
              rw [(Continues.register pass dependency).blockCount] at hissue
              exact (Continues.register pass dependency).trans hissue
  | appliesTo block => exact .refl pass
  | nextNumber => exact .issue pass
  | register dependency => exact .register pass dependency
  | renderAssets => exact .refl pass

/-! ### Many calls -/

theorem calls_cons (pass : BuildPass) (call : Call) (rest : List Call) :
    pass.calls (call :: rest) =
      ((call, (pass.call call).1) :: ((pass.call call).2.calls rest).1,
        ((pass.call call).2.calls rest).2) := rfl

theorem issued?_of_format {pass next : BuildPass} (h : next.format = pass.format) :
    next.issued? = pass.issued? := by
  funext exchange
  rw [issued?.eq_def, issued?.eq_def]
  simp only [publishes_of_format h]

/-- What calls do to a build, however many there are. -/
theorem Continues.calls (pass : BuildPass) (calls : List Call) :
    pass.Continues ((pass.calls calls).1.filterMap pass.issued?) (pass.calls calls).2 := by
  induction calls generalizing pass with
  | nil => exact .refl pass
  | cons call rest ih =>
      have hcall := Continues.call pass call
      have hrest := ih (pass.call call).2
      rw [issued?_of_format hcall.format] at hrest
      have hnumbers : ∀ exchange answers, List.filterMap pass.issued? (exchange :: answers) =
          (pass.issued? exchange).toList ++ answers.filterMap pass.issued? := by
        intro exchange answers
        cases hissued : pass.issued? exchange <;> simp [hissued]
      rw [calls_cons, hnumbers]
      exact hcall.trans hrest

/-! ### Taking a block through a build after calls -/

/-- Taking a block through a build fails only if the time that a query may take is no number of
milliseconds. Then the build is as it was. -/
theorem process_eq_error {pass : BuildPass} {block : CodeBlock Text} {error : AssetError}
    (h : (pass.process block).1 = .error error) :
    (pass.process block).2 = pass ∧ milliseconds pass.timeout = .error error := by
  cases hpublishes : pass.publishes block.classes with
  | false => rw [process_of_not_publishes hpublishes] at h; cases h
  | true =>
      cases hdependency : Dependency.forQueries pass.timeout pass.environment with
      | ok dependency => rw [process_of_ok hpublishes hdependency] at h; cases h
      | error found =>
          rw [process_of_error hpublishes hdependency] at h ⊢
          cases h
          refine ⟨rfl, ?_⟩
          unfold Dependency.forQueries at hdependency
          cases hms : milliseconds pass.timeout with
          | ok ms => rw [hms] at hdependency; cases hdependency
          | error failure => rw [hms] at hdependency; cases hdependency; rfl

theorem registered_of_process {pass : BuildPass} {block out : CodeBlock Text}
    (hpublishes : pass.publishes block.classes = true)
    (h : (pass.process block).1 = .ok out) : (pass.process block).2.assetsRegistered = true := by
  cases hdependency : Dependency.forQueries pass.timeout pass.environment with
  | error error => rw [process_of_error hpublishes hdependency] at h; cases h
  | ok dependency =>
      rw [process_of_ok hpublishes hdependency]
      exact pass.register_registered dependency

/-- Builds that differ only in what was done in them publish a block alike. -/
theorem process_withNumber {pass other : BuildPass} {block : CodeBlock Text}
    (hformat : other.format = pass.format) (henvironment : other.environment = pass.environment)
    (htimeout : other.timeout = pass.timeout) (h : pass.publishes block.classes = true) :
    (other.process block).1 =
      (pass.process block).1.map (·.withNumber (other.blockCount + 1)) := by
  have hother : other.publishes block.classes = true := publishes_of_format hformat _ ▸ h
  cases hdependency : Dependency.forQueries pass.timeout pass.environment with
  | error error =>
      have hsame : Dependency.forQueries other.timeout other.environment = .error error := by
        rw [htimeout, henvironment, hdependency]
      rw [process_of_error h hdependency, process_of_error hother hsame]
      rfl
  | ok dependency =>
      have hsame : Dependency.forQueries other.timeout other.environment = .ok dependency := by
        rw [htimeout, henvironment, hdependency]
      rw [process_of_ok h hdependency, process_of_ok hother hsame, henvironment]
      exact congrArg Except.ok (block.withNumber_publish _ _ _).symm

/-- After any calls on a fresh build: the assets are registered exactly when there are assets,
there are assets once at most, and no further calls change them; the numbers that were issued
are 1, 2, 3 and so on up to the block count. A block that is published registers the assets, any
other block comes back as it was and leaves the build as it was, and so does a failure, which
only the timeout brings about. What is published of a block is the same after other calls, but
for the number. -/
theorem calls_keep_order (format : Text) (environment : Option Text) (timeout : Binary64)
    (calls : List Call) :
    let fresh := start format environment timeout
    let pass := (fresh.calls calls).2
    (pass.assetsRegistered = true ↔ pass.dependencies ≠ []) ∧
      pass.dependencies.length ≤ 1 ∧
      (pass.dependencies ≠ [] → ∀ more : List Call,
        (pass.calls more).2.dependencies = pass.dependencies) ∧
      (fresh.calls calls).1.filterMap fresh.issued? =
        (List.range' 1 pass.blockCount).map Text.decimal ∧
      ∀ block : CodeBlock Text,
        (pass.publishes block.classes =
          (block.classes.contains CodeBlock.marker && isPageFormat format)) ∧
        (pass.publishes block.classes = false → pass.process block = (.ok block, pass)) ∧
        (pass.publishes block.classes = true →
          (∀ out, (pass.process block).1 = .ok out →
            (pass.process block).2.assetsRegistered = true) ∧
          ∀ others : List Call,
            ((fresh.calls others).2.process block).1 =
              (pass.process block).1.map
                (·.withNumber ((fresh.calls others).2.blockCount + 1))) ∧
        ∀ error, (pass.process block).1 = .error error →
          (pass.process block).2 = pass ∧ milliseconds timeout = .error error := by
  intro fresh pass
  have hpass := Continues.calls fresh calls
  have htidy : pass.Tidy := hpass.tidy (tidy_start format environment timeout)
  refine ⟨htidy.registered_iff, htidy.length_le, ?_, ?_, fun block => ⟨?_, ?_, ?_, ?_⟩⟩
  · intro hsome more
    exact (Continues.calls pass more).kept htidy hsome
  · have hcount : pass.blockCount =
        ((fresh.calls calls).1.filterMap fresh.issued?).length :=
      hpass.blockCount.trans (Nat.zero_add _)
    rw [hcount]
    exact hpass.numbers_eq
  · exact publishes_of_format hpass.format block.classes
  · exact process_of_not_publishes
  · intro hpublishes
    refine ⟨fun out => registered_of_process hpublishes, fun others => ?_⟩
    have hothers := Continues.calls fresh others
    exact process_withNumber (hothers.format.trans hpass.format.symm)
      (hothers.environment.trans hpass.environment.symm)
      (hothers.timeout.trans hpass.timeout.symm) hpublishes
  · intro error herror
    obtain ⟨hsame, hms⟩ := process_eq_error herror
    exact ⟨hsame, (congrArg milliseconds hpass.timeout).symm.trans hms⟩

end BuildPass

end CypherPages
