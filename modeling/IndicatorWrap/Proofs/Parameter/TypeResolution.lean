import Mathlib
import IndicatorWrap.Declaration.Cursor
import IndicatorWrap.Parameter.HostType
import IndicatorWrap.Proofs.Declaration.Canonical

/-!
Types are resolved from their text alone, which is taken apart again: the star, the
qualifier and all but the last name of the path are stripped off it. This module
shows that nothing is lost on the way. For every type that can be read from a text,
what resolution finds is what the parsed type says.
-/

namespace IndicatorWrap

open Lexeme (IsIdentifier isIdentChar)

namespace Text

theorem isBlank_of_isIdentChar {c : Char} (h : isIdentChar c) : isBlank c = false := by
  refine forall_isIdentChar (motive := fun c => isBlank c = false) ?_ h
  decide

theorem dropBlanks_cons {c : Char} (h : isBlank c = false) (rest : List Char) :
    dropBlanks (c :: rest) = c :: rest :=
  List.dropWhile_cons_of_neg (by simp [h])

/-- A text that begins with no blank and ends in a word is trimmed. -/
theorem trim_append {front word : List Char} (hfront : dropBlanks (front ++ word) = front ++ word)
    (hne : word ≠ []) (hword : ∀ c ∈ word, isBlank c = false) :
    trim (front ++ word) = front ++ word := by
  rw [trim, hfront]
  refine List.rdropWhile_eq_self_iff.mpr fun hne' => ?_
  rw [List.getLast_append_of_ne_nil hne' hne, hword _ (List.getLast_mem hne)]
  simp

theorem trim_word {word : List Char} (hword : ∀ c ∈ word, isBlank c = false) :
    trim word = word := by
  cases word with
  | nil => rfl
  | cons c rest =>
      have hfront : dropBlanks ([] ++ c :: rest) = [] ++ c :: rest :=
        dropBlanks_cons (hword c List.mem_cons_self) rest
      exact trim_append hfront (List.cons_ne_nil c rest) hword

end Text

theorem uptoSeparator_append {name : List Char} (h : ':' ∉ name) (rest : List Char) :
    uptoSeparator (name ++ rest) = name ++ uptoSeparator rest := by
  induction name with
  | nil => rfl
  | cons c name ih =>
      have hc : c ≠ ':' := fun heq => h (heq ▸ List.mem_cons_self)
      rw [List.cons_append, uptoSeparator, ih fun hmem => h (List.mem_cons_of_mem c hmem)]
      · rfl
      · rintro after heq -
        exact hc heq

theorem lastSegment_of_not_mem {name : List Char} (h : ':' ∉ name) : lastSegment name = name := by
  have hreverse := uptoSeparator_append (fun hmem => h (List.mem_reverse.mp hmem)) []
  rw [List.append_nil, uptoSeparator, List.append_nil] at hreverse
  rw [lastSegment, hreverse, List.reverse_reverse]

theorem lastSegment_append {name : List Char} (h : ':' ∉ name) (front : List Char) :
    lastSegment (front ++ ':' :: ':' :: name) = name := by
  have hreverse := uptoSeparator_append (fun hmem => h (List.mem_reverse.mp hmem))
    (':' :: ':' :: front.reverse)
  rw [uptoSeparator, List.append_nil] at hreverse
  rw [lastSegment, List.reverse_append, List.reverse_cons, List.reverse_cons, List.append_assoc,
    List.append_assoc, List.singleton_append, List.singleton_append, hreverse,
    List.reverse_reverse]

theorem mem_keys_iff {table : List (String × String)} {key : String} :
    key ∈ table.map Prod.fst ↔ ∃ value, table.lookup key = some value := by
  rw [← Option.isSome_iff_exists, List.lookup_isSome_iff]
  simp only [List.mem_map, beq_iff_eq]
  exact exists_congr fun entry => and_congr_right fun _ => eq_comm

namespace TypePath

/-- The names of a path, in order. -/
def names (path : TypePath) : List String :=
  path.first :: path.more

def lastName (path : TypePath) : String :=
  path.names.getLast (List.cons_ne_nil _ _)

/-- Whether the names of a path are identifiers. -/
def Identified (path : TypePath) : Prop :=
  ∀ name ∈ path.names, IsIdentifier name.toList

variable {path : TypePath}

theorem Identified.lastName (h : path.Identified) : IsIdentifier path.lastName.toList :=
  h _ (List.getLast_mem _)

/-- The text of a path ends in its last name, with a separator or nothing before it. -/
theorem render_eq_lastName (path : TypePath) :
    path.render = path.lastName ∨
      ∃ front, path.render.toList = front ++ ':' :: ':' :: path.lastName.toList := by
  obtain ⟨rooted, first, more⟩ := path
  obtain rfl | ⟨more, name, rfl⟩ := List.eq_nil_or_concat more
  · cases rooted with
    | false =>
        left
        simp [render, lastName, names]
    | true => exact .inr ⟨[], by simp [render, lastName, names]⟩
  · right
    refine ⟨(render ⟨rooted, first, more⟩).toList, ?_⟩
    simp [render, lastName, names]

namespace Identified

theorem eq_colon_of_mem (h : path.Identified) {c : Char} (hc : c ∈ path.render.toList)
    (hother : ¬isIdentChar c) : c = ':' := by
  have hname : ∀ name ∈ path.names, c ∉ name.toList :=
    fun name hname hmem => hother ((h name hname).isIdentChar_of_mem c hmem)
  have hroot : c ∈ (if path.rooted then "::" else "").toList → c = ':' := by
    cases path.rooted <;> simp
  simp only [render, String.toList_append, String.toList_join, List.mem_append, List.mem_flatMap,
    List.mem_map] at hc
  rcases hc with (hc | hfirst) | ⟨-, ⟨name, hmore, rfl⟩, hc⟩
  · exact hroot hc
  · exact absurd hfirst (hname _ List.mem_cons_self)
  · rw [String.toList_append, List.mem_append] at hc
    rcases hc with hc | hc
    · simpa using hc
    · exact absurd hc (hname name (List.mem_cons_of_mem _ hmore))

theorem isBlank_of_mem (h : path.Identified) {c : Char} (hc : c ∈ path.render.toList) :
    Text.isBlank c = false := by
  by_cases hident : isIdentChar c
  · exact Text.isBlank_of_isIdentChar hident
  · rw [h.eq_colon_of_mem hc hident]
    decide

theorem head?_ne_star (h : path.Identified) : path.render.toList.head? ≠ some '*' := by
  intro hhead
  exact absurd (h.eq_colon_of_mem (List.mem_of_head? hhead) (by decide)) (by decide)

theorem colon_not_mem_lastName (h : path.Identified) : ':' ∉ path.lastName.toList :=
  fun hmem => absurd (h.lastName.isIdentChar_of_mem _ hmem) (by decide)

theorem lastName_ne_nil (h : path.Identified) : path.lastName.toList ≠ [] := by
  obtain ⟨c, rest, hlast, -⟩ := h.lastName
  rw [hlast]
  exact List.cons_ne_nil c rest

theorem trim_lastName (h : path.Identified) :
    Text.trim path.lastName.toList = path.lastName.toList :=
  Text.trim_word fun c hc => Text.isBlank_of_isIdentChar (h.lastName.isIdentChar_of_mem c hc)

theorem render_ne_nil (h : path.Identified) : path.render.toList ≠ [] := by
  obtain hrender | ⟨front, hrender⟩ := path.render_eq_lastName
  · rw [hrender]
    exact h.lastName_ne_nil
  · simp [hrender]

theorem lastSegment_render (h : path.Identified) :
    lastSegment path.render.toList = path.lastName.toList := by
  obtain hrender | ⟨front, hrender⟩ := path.render_eq_lastName
  · rw [hrender, lastSegment_of_not_mem h.colon_not_mem_lastName]
  · rw [hrender, lastSegment_append h.colon_not_mem_lastName]

end Identified

end TypePath

theorem dropQualifier_of_not_isBlank {text : List Char} (h : ∀ c ∈ text, Text.isBlank c = false) :
    dropQualifier text = text := by
  unfold dropQualifier
  dsimp only
  split
  · next c rest hbehind =>
    -- what stands behind a word in front of the text is a character of the text
    obtain ⟨word, -, hprefix⟩ := List.exists_of_findSome?_eq_some hbehind
    have htext := List.isPrefixOf?_eq_some_iff_append_eq.mp hprefix
    have hc : c ∈ text := by simp [← htext]
    rw [h c hc]
    simp
  · rfl

theorem dropQualifier_star (text : List Char) : dropQualifier ('*' :: text) = '*' :: text :=
  rfl

theorem dropQualifier_word (qualifier : Qualifier) (text : List Char) :
    dropQualifier (qualifier.word.toList ++ ' ' :: text) = Text.dropBlanks text := by
  cases qualifier <;> rfl

/-- What stands between a star and the target of the pointer. -/
def Qualifier.text : Option Qualifier → List Char
  | none => []
  | some qualifier => qualifier.word.toList ++ [' ']

namespace TypeExpr

/-- How many pointers a type has in front of its path. -/
def depth : TypeExpr → Nat
  | .named _ => 0
  | .pointer _ target => target.depth + 1

def path : TypeExpr → TypePath
  | .named path => path
  | .pointer _ target => target.path

variable {type : TypeExpr}

theorem toList_render_pointer (qualifier : Option Qualifier) (target : TypeExpr) :
    (pointer qualifier target).render.toList =
      '*' :: (Qualifier.text qualifier ++ target.render.toList) := by
  cases qualifier <;> simp [render, Qualifier.text]

theorem exists_render_eq (type : TypeExpr) :
    ∃ front, type.render.toList = front ++ type.path.render.toList := by
  induction type with
  | named path => exact ⟨[], rfl⟩
  | pointer qualifier target ih =>
      obtain ⟨front, hfront⟩ := ih
      refine ⟨'*' :: (Qualifier.text qualifier ++ front), ?_⟩
      rw [toList_render_pointer, hfront, List.cons_append, List.append_assoc]
      rfl

theorem dropBlanks_render (h : type.path.Identified) :
    Text.dropBlanks type.render.toList = type.render.toList := by
  cases type with
  | named path =>
      obtain ⟨c, rest, hrender⟩ := List.exists_cons_of_ne_nil h.render_ne_nil
      have hc : c ∈ path.render.toList := hrender ▸ List.mem_cons_self
      rw [render, show path.render.toList = c :: rest from hrender]
      exact Text.dropBlanks_cons (h.isBlank_of_mem hc) rest
  | pointer qualifier target =>
      rw [toList_render_pointer]
      exact Text.dropBlanks_cons (by decide) _

theorem trim_render (h : type.path.Identified) :
    Text.trim type.render.toList = type.render.toList := by
  have hfront := dropBlanks_render h
  obtain ⟨front, hrender⟩ := type.exists_render_eq
  rw [hrender] at hfront ⊢
  exact Text.trim_append hfront h.render_ne_nil fun c hc => h.isBlank_of_mem hc

theorem dropQualifier_render (h : type.path.Identified) :
    dropQualifier type.render.toList = type.render.toList := by
  cases type with
  | named path => exact dropQualifier_of_not_isBlank fun c hc => h.isBlank_of_mem hc
  | pointer qualifier target => rw [toList_render_pointer, dropQualifier_star]

/-- What stands behind the star and its qualifier is the text of the target. -/
theorem pointee_eq_render (qualifier : Option Qualifier) {target : TypeExpr}
    (h : target.path.Identified) :
    dropQualifier (Text.dropBlanks (Qualifier.text qualifier ++ target.render.toList)) =
      target.render.toList := by
  cases qualifier with
  | none => rw [Qualifier.text, List.nil_append, dropBlanks_render h, dropQualifier_render h]
  | some qualifier =>
      rw [Qualifier.text, List.append_assoc, List.singleton_append]
      have hword : Text.dropBlanks (qualifier.word.toList ++ ' ' :: target.render.toList) =
          qualifier.word.toList ++ ' ' :: target.render.toList := by
        cases qualifier <;> exact Text.dropBlanks_cons (by decide) _
      rw [hword, dropQualifier_word, dropBlanks_render h]

/-- The tag of a type is the last name of its path behind one pointer, and there is
none behind no pointer or several. -/
theorem elementTag_render (h : type.path.Identified) :
    elementTag type.render = if type.depth = 1 then some type.path.lastName else none := by
  unfold elementTag
  rw [trim_render h]
  cases type with
  | named path =>
      have hpath : path.Identified := h
      split
      · next behind hrender => exact absurd (congrArg List.head? hrender) hpath.head?_ne_star
      · rfl
  | pointer qualifier target =>
      have htarget : target.path.Identified := h
      have hpointee := pointee_eq_render qualifier htarget
      -- only the pointee of what stands behind the star matters
      rw [toList_render_pointer]
      generalize Qualifier.text qualifier ++ target.render.toList = behind at hpointee ⊢
      simp only [hpointee, trim_render htarget]
      cases target with
      | named path =>
          have hpath : path.Identified := h
          have hnewline : '\n' ∉ path.render.toList :=
            fun hmem => absurd (hpath.isBlank_of_mem hmem) (by decide)
          rw [render, hpath.lastSegment_render, hpath.trim_lastName, String.ofList_toList,
            if_neg (by simp [hnewline, hpath.head?_ne_star, hpath.lastName_ne_nil])]
          rfl
      | pointer inner target =>
          rw [toList_render_pointer, if_pos (by simp)]
          rfl

theorem head?_render_eq_star_iff (h : type.path.Identified) :
    type.render.toList.head? = some '*' ↔ 1 ≤ type.depth := by
  cases type with
  | named path =>
      have hhead : path.render.toList.head? ≠ some '*' := h.head?_ne_star
      simpa [render, depth] using hhead
  | pointer qualifier target => simp [toList_render_pointer, depth]

/-- What a type as it was parsed is resolved to. A fault names the text of the type. -/
structure ResolvesAs (type : TypeExpr) (role : Role) : Prop where
  tag : elementTag type.render = if type.depth = 1 then some type.path.lastName else none
  succeeds :
    (∃ hostType, HostType.ofRaw type.render role = .ok hostType) ↔
      type.depth = 1 ∧ type.path.lastName ∈ elementTypes.map Prod.fst ∨
        type.depth = 0 ∧ type.render ∈ scalarTypes.map Prod.fst
  series : ∀ {element}, type.depth = 1 → elementTypes.lookup type.path.lastName = some element →
    HostType.ofRaw type.render role =
      .ok ⟨(if role = .input then "&" else "") ++ "Vec<" ++ element ++ ">", true, some element⟩
  scalar : ∀ {host}, type.depth = 0 → scalarTypes.lookup type.render = some host →
    HostType.ofRaw type.render role = .ok ⟨host, false, none⟩
  fault : ∀ {error}, HostType.ofRaw type.render role = .error error →
    error.rawType = type.render ∧
      error.code = if 1 ≤ type.depth then "UNKNOWN_ELEMENT_TYPE" else "UNKNOWN_TYPE"

theorem ofRaw_render_eq_ok_iff (h : type.path.Identified) {role : Role} {hostType : HostType} :
    HostType.ofRaw type.render role = .ok hostType ↔
      (∃ element, type.depth = 1 ∧ elementTypes.lookup type.path.lastName = some element ∧
        ⟨(if role = .input then "&" else "") ++ "Vec<" ++ element ++ ">", true, some element⟩ =
          hostType) ∨
      ∃ host, type.depth = 0 ∧ scalarTypes.lookup type.render = some host ∧
        ⟨host, false, none⟩ = hostType := by
  simp only [HostType.ofRaw, head?_render_eq_star_iff h, elementTag_render h]
  rcases Nat.lt_or_ge type.depth 1 with hscalar | hpointer
  · have hzero : type.depth = 0 := by omega
    rw [if_neg (by omega)]
    cases hlookup : scalarTypes.lookup type.render <;> simp [hzero]
  · have hne : type.depth ≠ 0 := by omega
    rw [if_pos hpointer]
    by_cases hone : type.depth = 1
    · rw [if_pos hone, Option.bind_some]
      cases hlookup : elementTypes.lookup type.path.lastName <;> simp [hone]
    · rw [if_neg hone, Option.bind_none]
      simp [hone, hne]

theorem ofRaw_render_fault (h : type.path.Identified) {role : Role} {error : TypeError}
    (herror : HostType.ofRaw type.render role = .error error) :
    error.rawType = type.render ∧
      error.code = if 1 ≤ type.depth then "UNKNOWN_ELEMENT_TYPE" else "UNKNOWN_TYPE" := by
  simp only [HostType.ofRaw, head?_render_eq_star_iff h] at herror
  split at herror
  · next hpointer =>
    rw [if_pos hpointer]
    split at herror
    · cases herror
      exact ⟨rfl, rfl⟩
    · cases herror
  · next hscalar =>
    rw [if_neg hscalar]
    split at herror
    · cases herror
      exact ⟨rfl, rfl⟩
    · cases herror

theorem resolvesAs (h : type.path.Identified) (role : Role) : type.ResolvesAs role where
  tag := elementTag_render h
  succeeds := by
    simp only [ofRaw_render_eq_ok_iff h, mem_keys_iff]
    constructor
    · rintro ⟨hostType, ⟨element, hdepth, hlookup, -⟩ | ⟨host, hdepth, hlookup, -⟩⟩
      · exact .inl ⟨hdepth, element, hlookup⟩
      · exact .inr ⟨hdepth, host, hlookup⟩
    · rintro (⟨hdepth, element, hlookup⟩ | ⟨hdepth, host, hlookup⟩)
      · exact ⟨_, .inl ⟨element, hdepth, hlookup, rfl⟩⟩
      · exact ⟨_, .inr ⟨host, hdepth, hlookup, rfl⟩⟩
  series hdepth hlookup := (ofRaw_render_eq_ok_iff h).mpr (.inl ⟨_, hdepth, hlookup, rfl⟩)
  scalar hdepth hlookup := (ofRaw_render_eq_ok_iff h).mpr (.inr ⟨_, hdepth, hlookup, rfl⟩)
  fault herror := ofRaw_render_fault h herror

end TypeExpr

/-! The names of a type that is read are names among the tokens. -/

theorem TypePath.identified_of_read {tokens rest : List Token} {path : TypePath}
    (h : read tokens = .done path rest) (htokens : Token.Identified tokens) : path.Identified := by
  obtain ⟨name, between, hname, hmore⟩ := Reading.bind_eq_done_iff.mp h
  obtain ⟨hroot, hkind⟩ := Reading.expect_eq_done_iff.mp hname
  obtain ⟨names, hnames, rfl⟩ := Reading.map_eq_done_iff.mp hmore
  obtain ⟨taken, rfl, hsegments⟩ := readMore_sound hnames
  have hbehind : name :: (taken ++ rest) ⊆ tokens := hroot ▸ (readRoot_suffix tokens).subset
  refine List.forall_mem_cons.mpr ⟨htokens name (hbehind List.mem_cons_self) hkind, ?_⟩
  refine hsegments.identifiers fun token htoken => htokens token (hbehind ?_)
  exact List.mem_cons_of_mem name (List.mem_append_left rest htoken)

theorem TypeExpr.identified_of_read {tokens rest : List Token} {type : TypeExpr}
    (h : read tokens = .done type rest) (htokens : Token.Identified tokens) :
    type.path.Identified := by
  fun_induction read tokens generalizing type with
  | case1 =>
      obtain ⟨path, hpath, rfl⟩ := Reading.map_eq_done_iff.mp h
      exact TypePath.identified_of_read hpath htokens
  | case2 star tokens _ ih =>
      obtain ⟨target, htarget, rfl⟩ := Reading.map_eq_done_iff.mp h
      have hbehind := (Qualifier.read_suffix tokens).trans (List.suffix_cons star tokens)
      have hpath := ih htarget fun token htoken => htokens token (hbehind.subset htoken)
      exact hpath
  | case3 =>
      obtain ⟨path, hpath, rfl⟩ := Reading.map_eq_done_iff.mp h
      exact TypePath.identified_of_read hpath htokens

/-- A type that is read anywhere in a text is resolved by its text as it was parsed. -/
theorem Cursor.resolvesAs_of_readType {text : String} {position : Nat} {function : String}
    {type : TypeExpr} {after : Cursor}
    (h : readType ⟨Token.scan text, position, function⟩ = (.ok type, after)) (role : Role) :
    type.ResolvesAs role := by
  have htokens : Token.Identified ((Token.scan text).drop position) :=
    Token.identified_of_drop (List.append_nil _).symm
  simp only [readType, Cursor.read, ahead] at h
  split at h
  · next read rest hread =>
    cases h
    exact TypeExpr.resolvesAs (TypeExpr.identified_of_read hread htokens) role
  · cases h

/-- A qualifier may be followed by a name that is spelled like it. -/
theorem Cursor.resolvesAs_const_const :
    ∃ after, readType ⟨Token.scan "* const const::f64", 0, ""⟩ =
        (.ok (.pointer (some .const) (.named ⟨false, "const", ["f64"]⟩)), after) ∧
      elementTag "*const const::f64" = some "f64" ∧
      HostType.ofRaw "*const const::f64" .input =
        .ok ⟨"&Vec<TA_Real>", true, some "TA_Real"⟩ := by
  have hread : (readType ⟨Token.scan "* const const::f64", 0, ""⟩).1 =
      .ok (.pointer (some .const) (.named ⟨false, "const", ["f64"]⟩)) := by
    decide +kernel
  have hresolves := resolvesAs_of_readType (Prod.ext hread rfl) .input
  exact ⟨_, Prod.ext hread rfl, hresolves.tag, hresolves.series rfl rfl⟩

end IndicatorWrap
