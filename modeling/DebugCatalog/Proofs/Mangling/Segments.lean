import DebugCatalog.Mangling.Name
import Mathlib.Data.List.Infix

/-!
# The last segment of a path

`lastSegment` counts the brackets that are open, and takes the tip of an arrow for a closing one.
This file says where it cuts a path, and when that is the last `::` outside all brackets.

* `lastSegment_suffix`: what is left of a path is its end.
* `Balanced before`: the brackets in front are closed again, each by its own and the innermost
  first, where the tip of an arrow is no bracket.
* `Exposed before`: no stretch that ends there opens more brackets than it has closing ones, where
  the tip of an arrow is one.  `depthAfter_eq_zero_iff`: this is where the count is zero.
* `isLast_segmentFrom`: the last segment follows the last exposed `::`.
* `depthAfter_le_of_stackAfter`: the count never exceeds the brackets that are open, so behind a
  balanced text it is zero.  `depthAfter_eq_of_stackAfter`: without arrows in brackets it is right.
* `lastSegment_of_colons`: what this means for the last segment.
-/

namespace DebugCatalog.Mangling

variable {s before rest start : List Char} {d : Nat} {c : Char}

/-! ### Ends -/

/-- A segment of a text ends where the text ends. -/
theorem segmentFrom_suffix {all start rest : List Char} (depth : Nat) (hstart : start <:+ all)
    (hrest : rest <:+ all) : segmentFrom depth start rest <:+ all := by
  fun_induction segmentFrom depth start rest with
  | case1 => exact hstart
  | case2 _ rest ih =>
    have hbehind : rest <:+ all := .trans ⟨[':', ':'], rfl⟩ hrest
    exact ih hbehind hbehind
  | case3 _ _ _ _ ih => exact ih hstart (.trans ⟨[':', ':'], rfl⟩ hrest)
  | case4 _ _ c rest _ _ ih => exact ih hstart ((List.suffix_cons c rest).trans hrest)
  | case5 _ _ c rest _ _ _ ih => exact ih hstart ((List.suffix_cons c rest).trans hrest)
  | case6 _ _ c rest _ _ _ ih => exact ih hstart ((List.suffix_cons c rest).trans hrest)

theorem lastSegment_suffix (name : String) : (lastSegment name).toList <:+ name.toList := by
  rw [lastSegment, String.toList_ofList]
  exact segmentFrom_suffix 0 List.suffix_rfl List.suffix_rfl

/-! ### Brackets -/

def isOpening (c : Char) : Bool :=
  c == '<' || c == '(' || c == '['

def isClosing (c : Char) : Bool :=
  c == '>' || c == ')' || c == ']'

/-- What a bracket is closed by. -/
def closingOf (c : Char) : Char :=
  if c = '<' then '>' else if c = '(' then ')' else ']'

/-- The text without the tips of its arrows. -/
def withoutTips : List Char → List Char
  | '-' :: '>' :: rest => '-' :: withoutTips rest
  | c :: rest => c :: withoutTips rest
  | [] => []

/-- The brackets that are open, by what closes them and innermost first, after one more character.
A bracket that is not the innermost cannot be closed. -/
def bracketStep (stack : List Char) (c : Char) : Option (List Char) :=
  if isOpening c then some (closingOf c :: stack)
  else if isClosing c then
    match stack with
    | [] => none
    | innermost :: outer => if c = innermost then some outer else none
  else some stack

/-- The brackets that are open behind a text, given those open in front of it. -/
def stackAfter (stack : List Char) (s : List Char) : Option (List Char) :=
  (withoutTips s).foldlM bracketStep stack

/-- All brackets are closed again, each by its own and the innermost first.  So what follows is
outside all brackets. -/
def Balanced (before : List Char) : Prop :=
  stackAfter [] before = some []

instance : DecidablePred Balanced := fun before =>
  inferInstanceAs (Decidable (stackAfter [] before = some []))

/-- How many brackets count as open after one more character. -/
def depthStep (d : Nat) (c : Char) : Nat :=
  if isOpening c then d + 1 else if isClosing c then d - 1 else d

def depthAfter (d : Nat) (s : List Char) : Nat :=
  s.foldl depthStep d

/-- No stretch up to here opens more brackets than it has closing ones, tips of arrows included. -/
def Exposed (before : List Char) : Prop :=
  ∀ stretch, stretch <:+ before → stretch.countP isOpening ≤ stretch.countP isClosing

/-! ### The count -/

theorem isOpening_iff : isOpening c = true ↔ c = '<' ∨ c = '(' ∨ c = '[' := by
  simp [isOpening, or_assoc]

theorem isClosing_iff : isClosing c = true ↔ c = '>' ∨ c = ')' ∨ c = ']' := by
  simp [isClosing, or_assoc]

theorem not_isClosing_of_isOpening (h : isOpening c = true) : ¬isClosing c = true := by
  rcases isOpening_iff.1 h with rfl | rfl | rfl
  all_goals decide

/-- The count stays low exactly if enough is closed of what is opened from anywhere on. -/
theorem depthAfter_le_iff (s : List Char) (d k : Nat) : depthAfter d s ≤ k ↔
    d + s.countP isOpening ≤ s.countP isClosing + k ∧
      ∀ b, b <:+ s → b.countP isOpening ≤ b.countP isClosing + k := by
  induction s generalizing d with
  | nil => simp [depthAfter, List.suffix_nil]
  | cons c s ih =>
    have hstep : depthAfter d (c :: s) = depthAfter (depthStep d c) s := rfl
    have hends : (∀ b, b <:+ c :: s → b.countP isOpening ≤ b.countP isClosing + k) ↔
        (c :: s).countP isOpening ≤ (c :: s).countP isClosing + k ∧
          ∀ b, b <:+ s → b.countP isOpening ≤ b.countP isClosing + k := by
      simp only [List.suffix_cons_iff, forall_eq_or_imp]
    rw [hstep, ih, hends, ← and_assoc, and_congr_left_iff]
    intro hall
    have hs := hall s List.suffix_rfl
    by_cases hopening : isOpening c = true
    · have hclosing : ¬isClosing c = true := not_isClosing_of_isOpening hopening
      rw [depthStep, if_pos hopening, List.countP_cons_of_pos hopening,
        List.countP_cons_of_neg hclosing]
      omega
    · by_cases hclosing : isClosing c = true
      · rw [depthStep, if_neg hopening, if_pos hclosing, List.countP_cons_of_neg hopening,
          List.countP_cons_of_pos hclosing]
        omega
      · rw [depthStep, if_neg hopening, if_neg hclosing, List.countP_cons_of_neg hopening,
          List.countP_cons_of_neg hclosing]
        omega

theorem depthAfter_eq_zero_iff : depthAfter 0 before = 0 ↔ Exposed before := by
  rw [← Nat.le_zero, depthAfter_le_iff]
  simp only [Nat.zero_add, Nat.add_zero]
  exact ⟨And.right, fun h => ⟨h before List.suffix_rfl, h⟩⟩

/-! ### Where a path is cut -/

/-- A `::` with `rest` behind it, and in front of it something with property `P`. -/
def CutAt (P : List Char → Prop) (s rest : List Char) : Prop :=
  ∃ before, s = before ++ ':' :: ':' :: rest ∧ P before

/-- The shortest of what cuts leave, or `start` if there are none. -/
def IsLastOr (cuts : List Char → Prop) (start rest : List Char) : Prop :=
  (cuts rest ∧ ∀ other, cuts other → rest.length ≤ other.length) ∨
    (rest = start ∧ ∀ other, ¬cuts other)

/-- What is behind the last cut, or the whole text if there is none. -/
def IsLast (P : List Char → Prop) (s rest : List Char) : Prop :=
  IsLastOr (CutAt P s) s rest

/-- A cut in front of all others is the last exactly if there are no others. -/
theorem IsLastOr.separator {cuts behind : List Char → Prop} (h : IsLastOr behind s rest)
    (hcuts : ∀ other, cuts other ↔ s = other ∨ behind other)
    (hlength : ∀ other, behind other → other.length < s.length) (start : List Char) :
    IsLastOr cuts start rest := by
  rcases h with ⟨hcut, hlast⟩ | ⟨rfl, hnone⟩
  · refine .inl ⟨(hcuts rest).2 (.inr hcut), fun other hother => ?_⟩
    rcases (hcuts other).1 hother with rfl | hother
    · exact (hlength rest hcut).le
    · exact hlast other hother
  · refine .inl ⟨(hcuts rest).2 (.inl rfl), fun other hother => ?_⟩
    rcases (hcuts other).1 hother with rfl | hother
    · exact Nat.le_refl _
    · exact absurd hother (hnone other)

/-- Of three colons in a row either pair could be the separator. -/
def NoTripleColon (s : List Char) : Prop :=
  ¬[':', ':', ':'] <:+: s

instance : DecidablePred NoTripleColon := fun s =>
  inferInstanceAs (Decidable ¬[':', ':', ':'] <:+: s)

variable {P : List Char → Prop}

theorem NoTripleColon.tail (h : NoTripleColon (c :: s)) : NoTripleColon s :=
  fun hs => h (hs.trans (List.suffix_cons c s).isInfix)

theorem NoTripleColon.ne_cons (h : NoTripleColon (':' :: ':' :: s)) : s ≠ ':' :: rest := by
  rintro rfl
  exact h (List.prefix_append [':', ':', ':'] rest).isInfix

theorem CutAt.length_lt (h : CutAt P s rest) : rest.length < s.length := by
  obtain ⟨before, rfl, -⟩ := h
  rw [List.length_append, List.length_cons, List.length_cons]
  omega

theorem cutAt_cons : CutAt P (c :: s) rest ↔
    (c :: s = ':' :: ':' :: rest ∧ P []) ∨ CutAt (fun before => P (c :: before)) s rest := by
  constructor
  · rintro ⟨before, hs, hP⟩
    cases before with
    | nil => exact .inl ⟨hs, hP⟩
    | cons b before =>
      obtain ⟨rfl, rfl⟩ := List.cons.inj hs
      exact .inr ⟨before, rfl, hP⟩
  · rintro (⟨hs, hP⟩ | ⟨before, rfl, hP⟩)
    · exact ⟨[], hs, hP⟩
    · exact ⟨c :: before, rfl, hP⟩

/-- Where nothing is open, if `d` brackets are open in front. -/
def IsZero (d : Nat) (before : List Char) : Prop :=
  depthAfter d before = 0

/-- A character that begins no separator only changes the count. -/
theorem cutAt_isZero_cons (h : ∀ rest, c :: s ≠ ':' :: ':' :: rest) :
    CutAt (IsZero d) (c :: s) = CutAt (IsZero (depthStep d c)) s := by
  funext rest
  rw [cutAt_cons, eq_iff_iff]
  exact or_iff_right fun hs => h rest hs.1

theorem cutAt_isZero_separator (h : NoTripleColon (':' :: ':' :: s)) :
    CutAt (IsZero d) (':' :: ':' :: s) rest ↔ (s = rest ∧ d = 0) ∨ CutAt (IsZero d) s rest := by
  have hsecond : ∀ rest, ':' :: s ≠ ':' :: ':' :: rest :=
    fun rest hs => h.ne_cons (List.cons.inj hs).2
  rw [cutAt_cons]
  refine or_congr ?_ (iff_of_eq (congrFun (cutAt_isZero_cons hsecond) rest))
  rw [List.cons.injEq, List.cons.injEq]
  exact and_congr_left' (by simp)

/-- What follows the last `::` where the count is zero. -/
theorem isLast_segmentFrom (d : Nat) (start s : List Char) (hs : NoTripleColon s) :
    IsLastOr (CutAt (IsZero d) s) start (segmentFrom d start s) := by
  fun_induction segmentFrom d start s with
  | case1 d start =>
    refine .inr ⟨rfl, ?_⟩
    rintro other ⟨before, hnil, -⟩
    exact absurd hnil (by simp)
  | case2 start rest ih =>
    refine (ih hs.tail.tail).separator (fun other => ?_) (fun _ => CutAt.length_lt) start
    rw [cutAt_isZero_separator hs, and_iff_left rfl]
  | case3 d start rest hd ih =>
    have hcuts : CutAt (IsZero d) (':' :: ':' :: rest) = CutAt (IsZero d) rest := by
      funext other
      rw [cutAt_isZero_separator hs, eq_iff_iff]
      exact or_iff_right fun h => hd h.2
    rw [hcuts]
    exact ih hs.tail.tail
  | case4 d start c rest hseparator hopening ih =>
    rw [cutAt_isZero_cons (by grind), depthStep, if_pos (isOpening_iff.2 hopening)]
    exact ih hs.tail
  | case5 d start c rest hseparator hopening hclosing ih =>
    rw [cutAt_isZero_cons (by grind), depthStep, if_neg (mt isOpening_iff.1 hopening),
      if_pos (isClosing_iff.2 hclosing)]
    exact ih hs.tail
  | case6 d start c rest hseparator hopening hclosing ih =>
    rw [cutAt_isZero_cons (by grind), depthStep, if_neg (mt isOpening_iff.1 hopening),
      if_neg (mt isClosing_iff.1 hclosing)]
    exact ih hs.tail

theorem isLast_lastSegment {name : String} (h : NoTripleColon name.toList) :
    IsLast Exposed name.toList (lastSegment name).toList := by
  have hzero : IsZero 0 = Exposed := funext fun _ => propext depthAfter_eq_zero_iff
  rw [lastSegment, String.toList_ofList, IsLast, ← hzero]
  exact isLast_segmentFrom 0 _ _ h

/-! ### The count beside the brackets -/

theorem stackAfter_cons {stack : List Char} (h : ∀ rest, c = '-' → s ≠ '>' :: rest) :
    stackAfter stack (c :: s) = (bracketStep stack c).bind fun stack => stackAfter stack s := by
  rw [stackAfter, withoutTips.eq_2 _ _ h]
  rfl

theorem stackAfter_arrow (stack : List Char) :
    stackAfter stack ('-' :: '>' :: s) = stackAfter stack s := by
  rw [stackAfter, withoutTips]
  rfl

theorem depthStep_mono {n : Nat} (h : d ≤ n) (c : Char) : depthStep d c ≤ depthStep n c := by
  unfold depthStep
  grind

/-- Without arrows the count is that of the open brackets. -/
theorem depthStep_length {stack stack' : List Char} (h : bracketStep stack c = some stack') :
    depthStep stack.length c = stack'.length := by
  unfold bracketStep at h
  unfold depthStep
  split at h
  · next hopening =>
    cases h
    rw [if_pos hopening, List.length_cons]
  · next hopening =>
    rw [if_neg hopening]
    split at h
    · next hclosing =>
      cases stack with
      | nil => cases h
      | cons innermost outer =>
        dsimp only at h
        split at h
        · cases h
          rw [if_pos hclosing, List.length_cons, Nat.add_sub_cancel]
        · cases h
    · next hclosing =>
      cases h
      rw [if_neg hclosing]

/-- A bracket counts for no more than it is. -/
theorem depthAfter_le_of_stackAfter {stack stack' : List Char}
    (h : stackAfter stack s = some stack') (hd : d ≤ stack.length) :
    depthAfter d s ≤ stack'.length := by
  fun_induction withoutTips s generalizing d stack with
  | case1 rest ih =>
    rw [stackAfter_arrow] at h
    exact ih h ((Nat.sub_le d 1).trans hd)
  | case2 c rest harrow ih =>
    rw [stackAfter_cons harrow] at h
    obtain ⟨next, hnext, h⟩ := Option.bind_eq_some_iff.1 h
    exact ih h ((depthStep_mono hd c).trans_eq (depthStep_length hnext))
  | case3 =>
    cases h
    exact hd

theorem Balanced.exposed (h : Balanced before) : Exposed before :=
  depthAfter_eq_zero_iff.1 (Nat.le_zero.1 (depthAfter_le_of_stackAfter h (Nat.le_refl 0)))

/-- The count is right if all arrows are outside all brackets. -/
theorem depthAfter_eq_of_stackAfter {stack stack' : List Char}
    (h : stackAfter stack s = some stack')
    (harrows : ∀ before after, s = before ++ '-' :: '>' :: after →
      stackAfter stack before = some []) : depthAfter stack.length s = stack'.length := by
  fun_induction withoutTips s generalizing stack with
  | case1 rest ih =>
    obtain rfl : stack = [] := Option.some.inj (harrows [] rest rfl)
    rw [stackAfter_arrow] at h
    refine ih h fun before after hrest => ?_
    rw [← stackAfter_arrow]
    exact harrows ('-' :: '>' :: before) after (by rw [hrest]; rfl)
  | case2 c rest harrow ih =>
    rw [stackAfter_cons harrow] at h
    obtain ⟨next, hnext, h⟩ := Option.bind_eq_some_iff.1 h
    change depthAfter (depthStep stack.length c) rest = _
    rw [depthStep_length hnext]
    refine ih h fun before after hrest => ?_
    have hbefore : ∀ tail, c = '-' → before ≠ '>' :: tail := by
      rintro tail hc rfl
      exact harrow _ hc hrest
    have hstack := harrows (c :: before) after (by rw [hrest]; rfl)
    rw [stackAfter_cons hbefore, hnext] at hstack
    exact hstack
  | case3 =>
    cases h
    rfl

theorem withoutTips_append (before rest : List Char) :
    withoutTips (before ++ ':' :: rest) = withoutTips before ++ ':' :: withoutTips rest := by
  fun_induction withoutTips before with
  | case1 tail ih => rw [List.cons_append, List.cons_append, withoutTips, ih, List.cons_append]
  | case2 c tail harrow ih =>
    have hkept : ∀ t, c = '-' → tail ++ ':' :: rest ≠ '>' :: t := by
      intro t hc htail
      cases tail with
      | nil => exact absurd (List.cons.inj htail).1 (by decide)
      | cons b tail =>
        obtain ⟨rfl, -⟩ := List.cons.inj htail
        exact harrow _ hc rfl
    rw [List.cons_append, withoutTips.eq_2 _ _ hkept, ih, List.cons_append]
  | case3 => exact withoutTips.eq_2 _ _ fun _ hcolon => absurd hcolon (by decide)

theorem exists_stackAfter (h : Balanced (before ++ ':' :: rest)) :
    ∃ stack, stackAfter [] before = some stack := by
  rw [Balanced, stackAfter, withoutTips_append, List.foldlM_append] at h
  obtain ⟨stack, hstack, -⟩ := Option.bind_eq_some_iff.1 h
  exact ⟨stack, hstack⟩

/-- Only what stands behind an arrow in brackets is exposed and not outside. -/
theorem Exposed.balanced (hexposed : Exposed before) (h : Balanced (before ++ ':' :: rest))
    (harrows : ∀ b after, before ++ ':' :: rest = b ++ '-' :: '>' :: after → Balanced b) :
    Balanced before := by
  obtain ⟨stack, hstack⟩ := exists_stackAfter h
  have hdepth : depthAfter 0 before = stack.length :=
    depthAfter_eq_of_stackAfter hstack fun b after hb =>
      harrows b (after ++ ':' :: rest) (by rw [hb, List.append_assoc]; rfl)
  rw [depthAfter_eq_zero_iff.2 hexposed] at hdepth
  rw [Balanced, hstack, List.length_eq_zero_iff.1 hdepth.symm]

/-! ### The last segment -/

theorem CutAt.mono {Q : List Char → Prop} (h : CutAt P s rest)
    (hPQ : ∀ before, P before → Q before) : CutAt Q s rest := by
  obtain ⟨before, hs, hP⟩ := h
  exact ⟨before, hs, hPQ before hP⟩

/-- The last exposed `::` is the last outside all brackets, unless one is exposed inside brackets
and none outside stands behind it. -/
theorem isLast_balanced_iff (h : IsLast Exposed s rest) : IsLast Balanced s rest ↔
    ∀ other, CutAt (fun before => Exposed before ∧ ¬Balanced before) s other →
      ∃ shorter, CutAt Balanced s shorter ∧ shorter.length < other.length := by
  constructor
  · intro hbalanced other hother
    have hexposed : CutAt Exposed s other := hother.mono fun _ => And.left
    rcases h with ⟨hcut, hmin⟩ | ⟨-, hnone⟩
    · rcases hbalanced with ⟨hrest, -⟩ | ⟨rfl, -⟩
      · refine ⟨rest, hrest, (hmin other hexposed).lt_of_ne fun hlength => ?_⟩
        obtain ⟨before, hs, hbefore⟩ := hrest
        obtain ⟨before', hs', -, hbefore'⟩ := hother
        obtain ⟨rfl, -⟩ := List.append_inj' (hs.symm.trans hs') (by simpa using hlength)
        exact hbefore' hbefore
      · exact absurd hcut.length_lt (lt_irrefl _)
    · exact absurd hexposed (hnone other)
  · intro hbehind
    have hexposed : ∀ other, CutAt Balanced s other → CutAt Exposed s other :=
      fun other hother => hother.mono fun _ => Balanced.exposed
    rcases h with ⟨⟨before, hs, hbefore⟩, hmin⟩ | ⟨hwhole, hnone⟩
    · refine .inl ⟨⟨before, hs, ?_⟩, fun other hother => hmin other (hexposed other hother)⟩
      by_contra hinside
      obtain ⟨shorter, hshorter, hlt⟩ := hbehind rest ⟨before, hs, hbefore, hinside⟩
      exact absurd hlt (hmin shorter (hexposed shorter hshorter)).not_gt
    · exact .inr ⟨hwhole, fun other hother => hnone other (hexposed other hother)⟩

/-- **The last segment of a path.**  The last segment follows the last `::` that is exposed, and
every `::` outside all brackets is exposed.  So it is what follows the last `::` outside all
brackets exactly if no other `::` is exposed behind that one.

This is so if the brackets of the path are balanced and none of them has an arrow inside. -/
theorem lastSegment_of_colons {name : String} (h : NoTripleColon name.toList) :
    IsLast Exposed name.toList (lastSegment name).toList ∧
    (∀ before, Balanced before → Exposed before) ∧
    (IsLast Balanced name.toList (lastSegment name).toList ↔
      ∀ rest, CutAt (fun before => Exposed before ∧ ¬Balanced before) name.toList rest →
        ∃ shorter, CutAt Balanced name.toList shorter ∧ shorter.length < rest.length) ∧
    (Balanced name.toList →
      (∀ before after, name.toList = before ++ '-' :: '>' :: after → Balanced before) →
      IsLast Balanced name.toList (lastSegment name).toList) := by
  have hlast := isLast_lastSegment h
  refine ⟨hlast, fun _ => Balanced.exposed, isLast_balanced_iff hlast, fun hname harrows => ?_⟩
  refine (isLast_balanced_iff hlast).2 fun rest hrest => ?_
  obtain ⟨before, hs, hexposed, hinside⟩ := hrest
  rw [hs] at hname harrows
  exact absurd (hexposed.balanced hname harrows) hinside

/-- A path whose last segment has an argument that returns something with a path of its own. -/
def arrowInArgument : String :=
  "foo::bar<fn() -> a::b>"

/-- The arrow closes the bracket in front of it as far as the count goes. -/
theorem lastSegment_of_colons_arrowInArgument :
    NoTripleColon arrowInArgument.toList ∧ Balanced arrowInArgument.toList ∧
    lastSegment arrowInArgument = "b>" ∧
    IsLast Exposed arrowInArgument.toList "b>".toList ∧
    ¬IsLast Balanced arrowInArgument.toList "b>".toList := by
  have hcolons : NoTripleColon arrowInArgument.toList := by decide
  have hsegment : lastSegment arrowInArgument = "b>" := by decide
  obtain ⟨hlast, -⟩ := lastSegment_of_colons hcolons
  rw [hsegment] at hlast
  refine ⟨hcolons, by decide, hsegment, hlast, ?_⟩
  rintro (⟨⟨before, hs, hbefore⟩, -⟩ | ⟨hwhole, -⟩)
  · have hsplit : "foo::bar<fn() -> a".toList ++ "::b>".toList = before ++ "::b>".toList := hs
    rw [← List.append_cancel_right hsplit] at hbefore
    exact absurd hbefore (by decide)
  · exact absurd hwhole (by decide)

end DebugCatalog.Mangling
