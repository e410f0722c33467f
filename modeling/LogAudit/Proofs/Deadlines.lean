import LogAudit.Proofs.Discovering

/-! # Discovery with a limit of time

Two runs of discovery are compared that differ in their limits of time only. They go side by side until
the earlier limit is over. From then on the first run keeps its files, and the second one adds to the
same files.

* `Number.lt_trans`: the order of numbers.
* `Trails`: the states of the two runs at the same directory.
* `trails_enter`: what one directory does to both.
* `discover_trails`: what is left at the end.
* `discover_deadline`: the files with a limit, with a larger one and with none. -/

namespace LogAudit.Decimal
set_option autoImplicit false

/-! ## The order of numbers -/

/-- The value of a finite binary number. -/
def Double.rational (negative : Bool) (mantissa : Nat) (exponent : Int) : ℚ :=
  signedMantissa negative mantissa * 2 ^ exponent

/-- The value of a binary number, if it is one. -/
def Double.value? : Double → Option (WithBot (WithTop ℚ))
  | .nan => none
  | .infinite true => some ⊥
  | .infinite false => some (WithBot.some ⊤)
  | .finite negative mantissa exponent =>
    some (WithBot.some (WithTop.some (rational negative mantissa exponent)))

theorem Double.signedMantissa_mul (negative : Bool) (mantissa factor : Nat) :
    signedMantissa negative (mantissa * factor) = signedMantissa negative mantissa * factor := by
  cases negative <;> simp [signedMantissa]

/-- A mantissa in smaller units. -/
theorem Double.rational_eq (negative : Bool) (mantissa : Nat) {exponent least : Int}
    (h : least ≤ exponent) :
    rational negative mantissa exponent =
      signedMantissa negative (mantissa * Nat.pow 2 (exponent - least).toNat) * 2 ^ least := by
  have hpower : ((Nat.pow 2 (exponent - least).toNat : Nat) : ℚ) = 2 ^ (exponent - least) := by
    have hcast : ((Nat.pow 2 (exponent - least).toNat : Nat) : ℚ) = 2 ^ (exponent - least).toNat :=
      Nat.cast_pow 2 _
    rw [hcast, ← zpow_natCast, Int.toNat_of_nonneg (Int.sub_nonneg.mpr h)]
  rw [rational, signedMantissa_mul, Int.cast_mul, Int.cast_natCast, hpower, mul_assoc,
    ← zpow_add₀ two_ne_zero, Int.sub_add_cancel]

/-- Binary numbers are compared by their values. -/
theorem Double.lt_iff {a b : Double} :
    a.lt b = true ↔ ∃ x y, a.value? = some x ∧ b.value? = some y ∧ x < y := by
  match a, b with
  | .nan, _ => simp [Double.lt, value?]
  | .infinite a, .nan => simp [Double.lt, value?]
  | .finite _ _ _, .nan => simp [Double.lt, value?]
  | .infinite a, .infinite b => cases a <;> cases b <;> simp [Double.lt, value?]
  | .infinite a, .finite _ _ _ => cases a <;> simp [Double.lt, value?]
  | .finite _ _ _, .infinite true => simp [Double.lt, value?]
  | .finite _ _ _, .infinite false =>
    exact ⟨fun _ => ⟨_, _, rfl, rfl, WithBot.coe_lt_coe.mpr (WithTop.coe_lt_top _)⟩, fun _ => rfl⟩
  | .finite a m i, .finite b n j =>
    have hpos : (0 : ℚ) < 2 ^ min i j := by positivity
    have hvalues : rational a m i < rational b n j ↔
        signedMantissa a (m * Nat.pow 2 (i - min i j).toNat) <
          signedMantissa b (n * Nat.pow 2 (j - min i j).toNat) := by
      rw [rational_eq a m (min_le_left i j), rational_eq b n (min_le_right i j),
        mul_lt_mul_iff_left₀ hpos, Int.cast_lt]
    simp [Double.lt, value?, hvalues]

/-- The binary number as which a number is compared. -/
def Number.exact : Number → Double
  | .whole value => .finite (value < 0) value.natAbs 0
  | .real value => value

theorem Number.lt_eq (a b : Number) : a.lt b = a.exact.lt b.exact := by
  have hmantissa : ∀ value : Int,
      Double.signedMantissa (decide (value < 0)) (value.natAbs * Nat.pow 2 0) = value := by
    intro value
    have hone : Nat.pow 2 0 = 1 := rfl
    simp only [hone, Nat.mul_one, Double.signedMantissa, decide_eq_true_eq]
    split <;> omega
  cases a with
  | real a => cases b <;> rfl
  | whole a =>
    cases b with
    | real b => rfl
    | whole b =>
      have hzero : ((0 : Int) - min 0 0).toNat = 0 := rfl
      simp only [Number.lt, Number.exact, Double.lt, hzero, hmantissa]

theorem Number.lt_trans {a b c : Number} (hab : a.lt b = true) (hbc : b.lt c = true) :
    a.lt c = true := by
  rw [Number.lt_eq, Double.lt_iff] at hab hbc ⊢
  obtain ⟨x, y, hx, hy, hxy⟩ := hab
  obtain ⟨y', z, hy', hz, hyz⟩ := hbc
  obtain rfl := Option.some.inj (hy.symm.trans hy')
  exact ⟨x, z, hx, hz, hxy.trans hyz⟩

end LogAudit.Decimal

namespace LogAudit
set_option autoImplicit false

open Files Decimal

variable {tree : Tree} {search : Search} {clock : Clock} {start : Nat} {top path : Path}
  {found other : Discovery}

/-! ## Searches that differ in their limits -/

/-- A search with another limit of time. -/
def Search.within (search : Search) (limit : Option Number) : Search := { search with limit := limit }

theorem visits_within (limit : Option Number) :
    visits tree (search.within limit) top = visits tree search top := by
  have hfrom : ∀ depth directory, visitsFrom tree (search.within limit) top depth directory =
      visitsFrom tree search top depth directory := by
    intro depth
    induction depth with
    | zero => exact fun _ => rfl
    | succ depth ih =>
      intro directory
      simp only [visitsFrom, ih]
      rfl
  exact hfrom _ _

/-! ## Files that are added -/

theorem files_prefix_accept (h : found.accept tree search top path = .ok other) :
    found.files <+: other.files := by
  rcases accept_cases h with ⟨_, hfiles, _⟩ | ⟨_, rfl⟩
  · rw [hfiles]
  · split
    · exact List.prefix_rfl
    · exact List.prefix_append _ _

theorem files_prefix_look {directory : Path} {files : List String}
    (h : found.look tree search top directory files = .ok other) : found.files <+: other.files :=
  foldlM_keeps (P := fun next => found.files <+: next.files)
    (fun _ _ _ h hbefore => hbefore.trans (files_prefix_accept h)) h List.prefix_rfl

theorem files_prefix_enter {visit : Visit}
    (h : found.enter tree search clock start top visit = .ok other) : found.files <+: other.files := by
  unfold Discovery.enter at h
  split at h
  · exact Except.ok.inj h ▸ List.prefix_rfl
  · split at h
    · exact Except.ok.inj h ▸ List.prefix_rfl
    · cases h
    · exact files_prefix_look h
    · dsimp only at h
      split at h
      · exact Except.ok.inj h ▸ List.prefix_rfl
      · have hlook := files_prefix_look h
        exact hlook

/-! ## Readings of the clock -/

/-- Discovery with another number of readings. -/
def Discovery.reading (found : Discovery) (readings : Nat) : Discovery :=
  { found with readings := readings }

theorem foldlM_map_comm {α β ε : Type} {step : β → α → Except ε β} {f : β → β}
    (h : ∀ before x, step (f before) x = (step before x).map f) (xs : List α) (before : β) :
    xs.foldlM step (f before) = (xs.foldlM step before).map f := by
  induction xs generalizing before with
  | nil => rfl
  | cons x xs ih =>
    rw [List.foldlM_cons, List.foldlM_cons, h]
    cases step before x with
    | error failure => rfl
    | ok next => exact ih next

/-- What becomes of a file does not depend on how often the clock was read. -/
theorem accept_reading (found : Discovery) (readings : Nat) (path : Path) :
    (found.reading readings).accept tree search top path =
      (found.accept tree search top path).map (·.reading readings) := by
  simp only [Discovery.accept, Discovery.reading]
  split
  · rfl
  · split
    · rfl
    · rfl
    · rfl
    · rfl
    · by_cases hexcluded : isExcluded search.exclusions (top.below path) = true
      · simp only [hexcluded, if_true]
        rfl
      · by_cases hknown : found.places.contains (tree.placeOf? path) = true
        · simp only [hexcluded, hknown, if_true, if_false, Bool.false_eq_true]
          rfl
        · simp only [hexcluded, hknown, if_false, Bool.false_eq_true]
          rfl

theorem look_reading (found : Discovery) (readings : Nat) (directory : Path) (files : List String) :
    (found.reading readings).look tree search top directory files =
      (found.look tree search top directory files).map (·.reading readings) := by
  refine foldlM_map_comm (f := fun next : Discovery => next.reading readings) ?_ files found
  exact fun before name => accept_reading before readings (directory.child name)

/-! ## One directory -/

/-- The time that has gone by when the clock is read next. -/
def elapsed (clock : Clock) (start : Nat) (found : Discovery) : Number :=
  (clock (start + found.readings)).sub (clock start)

theorem enter_of_stopped (h : found.stopped = true) (visit : Visit) :
    found.enter tree search clock start top visit = .ok found := by
  unfold Discovery.enter
  rw [if_pos h]

theorem enter_unlimited (h : found.stopped = false) (directory : Path) (files : List String) :
    found.enter tree (search.within none) clock start top (.listed directory files) =
      found.look tree search top directory files := by
  unfold Discovery.enter
  rw [if_neg (by simp [h])]
  rfl

theorem enter_limited (h : found.stopped = false) (limit : Number) (directory : Path)
    (files : List String) :
    found.enter tree (search.within (some limit)) clock start top (.listed directory files) =
      if limit.lt (elapsed clock start found) then
        .ok { found with
          readings := found.readings + 1, notes := found.notes ++ [.stopped limit], stopped := true }
      else (found.look tree search top directory files).map (·.reading (found.readings + 1)) := by
  unfold Discovery.enter
  rw [if_neg (by simp [h]), ← look_reading]
  rfl

/-! ## Two runs side by side -/

/-- Two runs at the same directory, of which the second one has the later limit. Either the first one has
stopped and the second one has its files and perhaps more, or both are at the same point. Without a
limit the clock is not read. -/
inductive Trails (late : Option Number) : Discovery → Discovery → Prop
  | behind {found other : Discovery} : found.stopped = true → found.files <+: other.files →
      Trails late found other
  | abreast {found : Discovery} {readings : Nat} : found.stopped = false →
      (late ≠ none → readings = found.readings) → Trails late found (found.reading readings)

/-- What two such runs come to: the first one has stopped before a fault ends the second one, or the
same fault ends both. -/
inductive TrailsTo (late : Option Number) :
    Except DiscoveryHalt Discovery → Except DiscoveryHalt Discovery → Prop
  | returned {found other : Discovery} : Trails late found other → TrailsTo late (.ok found) (.ok other)
  | spared {found : Discovery} {halt : DiscoveryHalt} : found.stopped = true →
      TrailsTo late (.ok found) (.error halt)
  | halted {halt : DiscoveryHalt} : TrailsTo late (.error halt) (.error halt)

section Trailing

variable {early : Number} {late : Option Number}

/-- A run that has stopped is followed by whatever the other one adds. -/
theorem trailsTo_of_adds {result : Except DiscoveryHalt Discovery} (hstopped : found.stopped = true)
    (hadds : ∀ other, result = .ok other → found.files <+: other.files) :
    TrailsTo late (.ok found) result := by
  cases result with
  | error halt => exact .spared hstopped
  | ok other => exact .returned (.behind hstopped (hadds other rfl))

/-- Runs that look at the same directory stay at the same point. -/
theorem trailsTo_of_look (hgoes : found.stopped = false) {directory : Path} {files : List String}
    {one two : Nat} (hreadings : late ≠ none → two = one) :
    TrailsTo late ((found.look tree search top directory files).map (·.reading one))
      ((found.look tree search top directory files).map (·.reading two)) := by
  cases hlook : found.look tree search top directory files with
  | error halt => exact .halted
  | ok next =>
    have hnext : (next.reading one).stopped = false := (stopped_look hlook).trans hgoes
    exact .returned (.abreast hnext hreadings)

theorem trails_enter (hlate : ∀ limit ∈ late, ∀ time, limit.lt time = true → early.lt time = true)
    (h : Trails late found other) (visit : Visit) :
    TrailsTo late (found.enter tree (search.within (some early)) clock start top visit)
      (other.enter tree (search.within late) clock start top visit) := by
  cases h with
  | behind hstopped hfiles =>
    rw [enter_of_stopped hstopped]
    exact trailsTo_of_adds hstopped fun _ hnext => hfiles.trans (files_prefix_enter hnext)
  | @abreast readings hgoes hreadings =>
    have hgoes' : (found.reading readings).stopped = false := hgoes
    cases visit with
    | refused directory fault =>
      unfold Discovery.enter
      rw [if_neg (by simp [hgoes]), if_neg (by simp [hgoes'])]
      exact .returned (.abreast hgoes hreadings)
    | buried directory =>
      unfold Discovery.enter
      rw [if_neg (by simp [hgoes]), if_neg (by simp [hgoes'])]
      exact .halted
    | listed directory files =>
      rw [enter_limited hgoes]
      cases late with
      | none =>
        rw [enter_unlimited hgoes', look_reading]
        split
        · refine trailsTo_of_adds rfl fun other hother => ?_
          rw [← look_reading] at hother
          have hadds := files_prefix_look hother
          exact hadds
        · exact trailsTo_of_look hgoes fun hnone => absurd rfl hnone
      | some limit =>
        obtain rfl := hreadings (by simp)
        rw [enter_limited hgoes']
        split
        · refine trailsTo_of_adds rfl fun other hother => ?_
          split at hother
          · obtain rfl := Except.ok.inj hother
            exact List.prefix_rfl
          · rw [← look_reading] at hother
            have hadds := files_prefix_look hother
            exact hadds
        · next hearly =>
          have hnot : ¬ limit.lt (elapsed clock start (found.reading found.readings)) = true :=
            fun hover => hearly (hlate limit rfl _ hover)
          rw [if_neg hnot]
          exact trailsTo_of_look hgoes fun _ => rfl

/-- A state that every step of a loop keeps is what the loop returns. -/
theorem foldlM_fixed {α β ε : Type} {step : β → α → Except ε β} {state : β} (xs : List α)
    (h : ∀ x, step state x = .ok state) : xs.foldlM step state = .ok state := by
  induction xs with
  | nil => rfl
  | cons x xs ih =>
    rw [List.foldlM_cons, h]
    exact ih

/-- A loop over two runs side by side, if a run that has stopped stays as it is. -/
theorem trailsTo_foldlM {α : Type} {step stepLate : Discovery → α → Except DiscoveryHalt Discovery}
    (hstep : ∀ x found other, Trails late found other → TrailsTo late (step found x) (stepLate other x))
    (hstays : ∀ found : Discovery, found.stopped = true → ∀ x, step found x = .ok found) (xs : List α)
    (h : Trails late found other) :
    TrailsTo late (xs.foldlM step found) (xs.foldlM stepLate other) := by
  induction xs generalizing found other with
  | nil => exact .returned h
  | cons x xs ih =>
    have hx := hstep x found other h
    rw [List.foldlM_cons, List.foldlM_cons]
    generalize step found x = one at hx ⊢
    generalize stepLate other x = two at hx ⊢
    cases hx with
    | returned htrails => exact ih htrails
    | @spared found halt hstopped =>
      have hrest : xs.foldlM step found = .ok found := foldlM_fixed xs (hstays found hstopped)
      change TrailsTo late (xs.foldlM step found) (.error halt)
      rw [hrest]
      exact .spared hstopped
    | halted => exact .halted

theorem discover_trails
    (hlate : ∀ limit ∈ late, ∀ time, limit.lt time = true → early.lt time = true)
    (roots : List (Option String)) :
    TrailsTo late (discover tree (search.within (some early)) clock start roots)
      (discover tree (search.within late) clock start roots) := by
  unfold discover
  cases roots.mapM (checkRoot tree) with
  | error failure => exact .halted
  | ok tops =>
    simp only [visits_within]
    have hinit : Trails late { readings := 1 } (Discovery.reading { readings := 1 } 1) :=
      .abreast rfl fun _ => rfl
    refine trailsTo_foldlM ?_ ?_ tops hinit
    · intro top found other h
      exact trailsTo_foldlM (fun visit _ _ h => trails_enter hlate h visit)
        (fun _ hstopped visit => enter_of_stopped hstopped visit) _ h
    · exact fun found hstopped top => foldlM_fixed _ fun visit => enter_of_stopped hstopped visit

end Trailing

/-! ## Discovery -/

/-- A search that another one goes on from: where the longer search returns, the shorter one returns the
first of its files, and all of them unless it was stopped. A fault that ends the longer search ends the
shorter one too, unless that was stopped before. -/
structure CutsTail (shorter longer : Except DiscoveryHalt Discovery) : Prop where
  returns : ∀ full, longer = .ok full → ∃ found, shorter = .ok found ∧ found.files <+: full.files ∧
    (found.stopped = false → found.files = full.files ∧ full.stopped = false)
  halts : ∀ halt, longer = .error halt →
    shorter = .error halt ∨ ∃ found, shorter = .ok found ∧ found.stopped = true

theorem TrailsTo.cutsTail {late : Option Number} {shorter longer : Except DiscoveryHalt Discovery}
    (h : TrailsTo late shorter longer) : CutsTail shorter longer := by
  cases h with
  | halted => exact ⟨by simp, fun _ h => Or.inl h⟩
  | spared hstopped => exact ⟨by simp, fun _ _ => Or.inr ⟨_, rfl, hstopped⟩⟩
  | returned htrails =>
    refine ⟨fun full hfull => ⟨_, rfl, ?_⟩, by simp⟩
    obtain rfl := Except.ok.inj hfull
    cases htrails with
    | behind hstopped hfiles => exact ⟨hfiles, fun hgoes => by simp [hstopped] at hgoes⟩
    | abreast hgoes _ => exact ⟨List.prefix_rfl, fun _ => ⟨rfl, hgoes⟩⟩

/-- A limit of time cuts off the last files of a search, whatever the clock shows, and a larger limit
leaves at least as many files. -/
theorem discover_deadline (tree : Tree) (search : Search) (clock : Clock) (start : Nat)
    (roots : List (Option String)) :
    (∀ limit, CutsTail (discover tree (search.within (some limit)) clock start roots)
      (discover tree (search.within none) clock start roots)) ∧
    ∀ smaller larger : Number, smaller.lt larger = true →
      CutsTail (discover tree (search.within (some smaller)) clock start roots)
        (discover tree (search.within (some larger)) clock start roots) := by
  refine ⟨fun limit => (discover_trails (by simp) roots).cutsTail, fun smaller larger hless => ?_⟩
  have hlate : ∀ limit ∈ some larger, ∀ time, limit.lt time = true → smaller.lt time = true := by
    rintro limit hlimit time hover
    obtain rfl := Option.some.inj hlimit
    exact Number.lt_trans hless hover
  exact (discover_trails hlate roots).cutsTail

/-- Two files, one in a directory below the other. -/
def nested : Tree where
  entries := [(["a"], .directory), (["a", "b"], .directory), (["a", "b", "B.java"], .file []),
    (["a", "A.java"], .file [])]

/-- Each directory there has one file, which is new. -/
theorem look_nested {directory : Path} {name : String}
    (h : directory = ⟨"", ["a"]⟩ ∧ name = "A.java" ∨ directory = ⟨"", ["a", "b"]⟩ ∧ name = "B.java")
    (found : Discovery) (hnew : some (directory.child name).parts ∉ found.places) :
    found.look nested {} ⟨"", ["a"]⟩ directory [name] =
      .ok { found with
        files := found.files ++ [directory.child name]
        places := found.places ++ [some (directory.child name).parts] } := by
  have hwant : isWanted nested {} ⟨"", ["a"]⟩ (directory.child name) = true := by
    rcases h with ⟨rfl, rfl⟩ | ⟨rfl, rfl⟩ <;> cbv
  have hplace : nested.placeOf? (directory.child name) = some (directory.child name).parts := by
    rcases h with ⟨rfl, rfl⟩ | ⟨rfl, rfl⟩ <;> cbv
  rw [Discovery.look, List.foldlM_cons, accept_of_isWanted hwant, hplace,
    if_neg (by rwa [List.contains_iff_mem])]
  rfl

/-- Discovery when it comes to the inner directory. -/
def nestedFirst : Discovery where
  files := [⟨"", ["a", "A.java"]⟩]
  places := [some ["a", "A.java"]]
  readings := 2

theorem discover_nested (limit : Int) (hlimit : 1 ≤ limit) :
    discover nested (Search.within {} (some (.whole limit))) (fun k => .whole k) 0 [some "a"] =
      nestedFirst.enter nested (Search.within {} (some (.whole limit))) (fun k => .whole k) 0
        ⟨"", ["a"]⟩ (.listed ⟨"", ["a", "b"]⟩ ["B.java"]) := by
  have hroot : checkRoot nested (some "a") = .ok ⟨"", ["a"]⟩ :=
    checkRoot_of_locate (by decide) (by cbv) (by cbv) rfl
  have hvisits : visits nested {} ⟨"", ["a"]⟩ =
      [.listed ⟨"", ["a"]⟩ ["A.java"], .listed ⟨"", ["a", "b"]⟩ ["B.java"]] := by cbv
  have helapsed : elapsed (fun k => .whole k) 0 { readings := 1 } = .whole 1 := rfl
  have hfirst : Discovery.enter nested (Search.within {} (some (.whole limit))) (fun k => .whole k) 0
      ⟨"", ["a"]⟩ { readings := 1 } (.listed ⟨"", ["a"]⟩ ["A.java"]) = .ok nestedFirst := by
    rw [enter_limited rfl, helapsed, if_neg (by simpa [Number.lt] using hlimit),
      look_nested (Or.inl ⟨rfl, rfl⟩) _ (by simp)]
    rfl
  rw [discover, List.mapM_cons, hroot]
  simp only [Except.mapError, List.mapM_nil, List.foldlM_cons, List.foldlM_nil, visits_within, hvisits,
    hfirst, bind, Except.bind, pure, Except.pure]
  generalize nestedFirst.enter nested _ _ 0 _ _ = result
  cases result <;> rfl

/-- A limit is over in the inner directory, and a larger one is not. -/
theorem discover_deadline_nested :
    ∃ found full,
      discover nested (Search.within {} (some (.whole 1))) (fun k => .whole k) 0 [some "a"] =
        .ok found ∧
      discover nested (Search.within {} (some (.whole 2))) (fun k => .whole k) 0 [some "a"] =
        .ok full ∧
      found.files = [⟨"", ["a", "A.java"]⟩] ∧ found.stopped = true ∧
      full.files = [⟨"", ["a", "A.java"]⟩, ⟨"", ["a", "b", "B.java"]⟩] ∧ full.stopped = false ∧
      CutsTail (.ok found) (.ok full) := by
  have helapsed : elapsed (fun k => .whole k) 0 nestedFirst = .whole 2 := rfl
  have hshort := discover_nested 1 (by decide)
  have hlong := discover_nested 2 (by decide)
  rw [enter_limited rfl, helapsed, if_pos (by decide)] at hshort
  rw [enter_limited rfl, helapsed, if_neg (by decide),
    look_nested (Or.inr ⟨rfl, rfl⟩) _ (by decide)] at hlong
  have hcut := (discover_deadline nested {} (fun k => .whole k) 0 [some "a"]).2 (.whole 1) (.whole 2)
    (by decide)
  rw [hshort, hlong] at hcut
  exact ⟨_, _, hshort, hlong, rfl, rfl, rfl, rfl, hcut⟩

end LogAudit
