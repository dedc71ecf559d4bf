import Outreach.Proofs.Graph.Edited
import Outreach.Proofs.Graph.Touched
import Outreach.Proofs.Graph.Validities
import Outreach.Proofs.Limits
import Outreach.Proofs.Step.DelayText

set_option autoImplicit false

namespace Outreach

section Stops

variable {p : Char → Bool} {stop : Char}

theorem dropWhile_append_stop (stops : p stop = false) (cs more : List Char) :
    (cs ++ stop :: more).dropWhile p = cs.dropWhile p ++ stop :: more := by
  rw [List.dropWhile_append, List.dropWhile_cons_of_neg (by simp [stops])]
  split
  · rename_i none
    rw [List.isEmpty_iff.mp none, List.nil_append]
  · rfl

theorem takeWhile_append_stop (stops : p stop = false) (cs more : List Char) :
    (cs ++ stop :: more).takeWhile p = cs.takeWhile p := by
  rw [List.takeWhile_append, List.takeWhile_cons_of_neg (by simp [stops]), List.append_nil]
  split
  · rename_i all
    exact (List.takeWhile_sublist p).eq_of_length all |>.symm
  · rfl

end Stops

namespace Delay

theorem sign_append_brace (cs more : List Char) :
    sign (cs ++ '\x7b' :: more) = ((sign cs).1, (sign cs).2 ++ '\x7b' :: more) := by
  cases cs with
  | nil => rfl
  | cons c rest =>
    by_cases minus : c = '-'
    · subst minus
      rfl
    by_cases plus : c = '+'
    · subst plus
      rfl
    simp [sign, minus, plus]

theorem leadingInt_append_brace (cs more : List Char) :
    leadingInt (cs ++ '\x7b' :: more) = leadingInt cs := by
  simp only [leadingInt, dropWhile_append_stop (show Text.isBlank '\x7b' = false by decide),
    sign_append_brace, takeWhile_append_stop (show Text.isDigit '\x7b' = false by decide)]

end Delay

namespace Placeholder

variable {text : String}

theorem toList_append_format (text variableName : String) :
    ∃ more, (text ++ format variableName).toList = text.toList ++ '\x7b' :: more :=
  ⟨'\x7b' :: (variableName.toList ++ ['\x7d', '\x7d']), by simp [format]⟩

theorem not_blank_append_format (text variableName : String) :
    Text.blank (text ++ format variableName) = false := by
  obtain ⟨more, parts⟩ := toList_append_format text variableName
  rw [Text.blank, parts, List.all_eq_false]
  exact ⟨'\x7b', by simp, by decide⟩

end Placeholder

def Fields.Holds (fields : Fields) (field text : String) : Prop :=
  fields.getD field = .null ∧ text = "" ∨ fields.get? field = some (.str text)

theorem Delay.amount_append_format {config : Fields} {field text : String}
    (holds : config.Holds field text) (variableName : String) :
    amount (.str (text ++ Placeholder.format variableName)) = amount (config.getD field) := by
  obtain ⟨more, parts⟩ := Placeholder.toList_append_format text variableName
  rw [amount, parts, leadingInt_append_brace]
  obtain ⟨null, rfl⟩ | given := holds
  · rw [null]
    rfl
  · rw [Fields.getD, given, Option.getD_some, amount]

namespace Node

variable {before after : Node} {field text variableName : String}

structure Extended (before after : Node) (field variableName : String) : Prop where
  text : ∃ text, before.config.Holds field text ∧
    after = { before with
      config := before.config.set field (.str (text ++ Placeholder.format variableName)) }

structure KeepsValid (before after : Node) (field : String) (shown later : Validity) : Prop where
  judged : before.validity = .ok shown
  rejudged : after.validity = .ok later
  missing : later.missing ⊆ shown.missing
  delay : before.type = .delay → later = shown
  filled : before.type ≠ .delay → field ∉ later.missing

theorem Extended.validity_eq (extended : before.Extended after field variableName)
    (delay : before.type = .delay) : after.validity = before.validity := by
  obtain ⟨text, holds, rfl⟩ := extended.text
  simp only [validity, delay]
  exact Delay.validity_set (fun _ _ => rfl) (Delay.amount_append_format holds variableName)

theorem validity_of_ne_delay {node : Node} (other : node.type ≠ .delay) :
    node.validity =
      .ok (Validity.ofMissing (Validity.missingFields node.type node.config)) := by
  have plain : node.type.special = none := by
    cases type : node.type with
    | delay => exact absurd type other
    | _ => rfl
  rw [validity, Validity.of, Validity.missingOf, plain]
  rfl

theorem Extended.missing_subset (extended : before.Extended after field variableName) :
    Validity.missingFields after.type after.config ⊆
        Validity.missingFields before.type before.config ∧
      field ∉ Validity.missingFields after.type after.config := by
  obtain ⟨text, -, rfl⟩ := extended.text
  simp only [Validity.missingFields]
  have filled : Validity.fieldValid ((before.config.set field
      (.str (text ++ Placeholder.format variableName))).getD field) = true := by
    rw [Fields.getD, Fields.get?_set_self, Option.getD_some, Validity.fieldValid,
      Placeholder.not_blank_append_format, Bool.not_false]
  constructor
  · intro key missing
    obtain ⟨required, invalid⟩ := List.mem_filter.mp missing
    have other : key ≠ field := by
      rintro rfl
      simp [filled] at invalid
    rw [Fields.getD, Fields.get?_set_of_ne _ _ other] at invalid
    exact List.mem_filter.mpr ⟨required, invalid⟩
  · intro missing
    simp [filled] at missing

theorem Extended.exists_keepsValid (extended : before.Extended after field variableName)
    (readable : before.unreadable = false) :
    ∃ shown later, before.KeepsValid after field shown later := by
  by_cases delay : before.type = .delay
  · cases judged : before.validity with
    | error failure =>
      rw [(validity_eq_error_iff.mp judged).1] at readable
      cases readable
    | ok shown =>
      exact ⟨shown, shown, judged, (extended.validity_eq delay).trans judged,
        List.Subset.refl _, fun _ => rfl, fun other => absurd delay other⟩
  · have same : after.type = before.type := by
      obtain ⟨text, -, rfl⟩ := extended.text
      rfl
    obtain ⟨subset, filled⟩ := extended.missing_subset
    exact ⟨_, _, validity_of_ne_delay delay, validity_of_ne_delay (same ▸ delay), subset,
      fun isDelay => absurd isDelay delay, fun _ => filled⟩

end Node

namespace Graph

variable {graph changed : Graph} {supply : Supply} {id field variableName : String} {now : Nat}
  {before after : Node}

structure Replaced (graph : Graph) (id : String) (before after : Node) (changed : Graph) :
    Prop where
  known : before ∈ graph.nodes
  named : before.id = id
  nodes : changed.nodes = graph.nodes.map fun node => if node.id = id then after else node

theorem modifyNodes_eq_map {change : Node → Node} {nodes : List Node} {node : Node}
    (unique : (nodes.map (·.id)).Nodup) (member : node ∈ nodes) :
    modifyNodes change node.id nodes =
      nodes.map fun other => if other.id = node.id then change node else other := by
  induction nodes with
  | nil => rfl
  | cons first rest ih =>
    obtain ⟨fresh, unique⟩ : first.id ∉ rest.map (·.id) ∧ (rest.map (·.id)).Nodup :=
      List.nodup_cons.mp unique
    rw [modifyNodes, List.map_cons]
    obtain rfl | later := List.mem_cons.mp member
    · have others : ∀ other ∈ rest,
          (if other.id = node.id then change node else other) = other := by
        intro other inside
        refine if_neg fun same => fresh ?_
        rw [← same]
        exact List.mem_map_of_mem inside
      rw [if_pos rfl, if_pos rfl, List.map_congr_left others, List.map_id']
    · have different : first.id ≠ node.id := by
        intro same
        rw [same] at fresh
        exact fresh (List.mem_map_of_mem later)
      rw [if_neg different, if_neg different, ih unique later]

theorem holds_of_fieldText {text : Option String} (read : fieldText before field = .ok text) :
    before.config.Holds field (text.getD "") := by
  rw [fieldText] at read
  split at read
  · rename_i absent
    cases read
    exact .inl ⟨by rw [Fields.getD, absent, Option.getD_none], rfl⟩
  · rename_i null
    cases read
    exact .inl ⟨by rw [Fields.getD, null, Option.getD_some], rfl⟩
  · rename_i string given
    cases read
    exact .inr given
  · cases read

theorem insert_keeps_valid [Limits] (edited : graph.Edited supply)
    (inserted : graph.insertVariable id field variableName now = .ok (after, changed)) :
    ∃ before, graph.Replaced id before after changed ∧
      before.Extended after field variableName ∧
      (before.type = .delay → after.validity = before.validity) ∧
      (before.unreadable = false → ∃ shown later, before.KeepsValid after field shown later) := by
  obtain ⟨before, found, inserted⟩ := bind_eq_ok.mp inserted
  obtain ⟨text, read, modified⟩ := bind_eq_ok.mp inserted
  obtain ⟨again, alsoFound, same⟩ := map_eq_ok.mp modified
  obtain rfl : before = again := Except.ok.inj (found.symm.trans alsoFound)
  obtain ⟨rfl, rfl⟩ := Prod.mk.inj same
  obtain ⟨member, rfl⟩ := mem_of_getNode found
  have extended : before.Extended (before.configure
      [(field, .str (Placeholder.insert text variableName))]) field variableName :=
    ⟨text.getD "", holds_of_fieldText read, rfl⟩
  refine ⟨before, ⟨member, rfl, ?_⟩, extended, extended.validity_eq,
    extended.exists_keepsValid⟩
  exact modifyNodes_eq_map edited.numbered.unique member

section

attribute [local instance] Limits.usual

theorem greeted_delay_valid : ∃ graph supply after changed, Edited graph supply ∧
    graph.insertVariable "node_00000001" "delayDays" "first_name" 3 = .ok (after, changed) ∧
    after.config.get? "delayDays" = some (.str "2\x7b\x7bfirst_name\x7d\x7d") ∧
    ∃ before, graph.Replaced "node_00000001" before after changed ∧
      before.Extended after "delayDays" "first_name" ∧
      (before.type = .delay → after.validity = before.validity) ∧
      (before.unreadable = false →
        ∃ shown later, before.KeepsValid after "delayDays" shown later) := by
  have created := Edited.created (some "Sketch") none 0 Supply.initial
  have wait := created.ran (.refl _) (.addNode (.str "delay") none) 1
  have days := wait.ran (.refl _)
    (.updateConfig "node_00000001" (.obj [("delayDays", .str "2")])) 2
  exact ⟨_, _, _, _, days, rfl, rfl, insert_keeps_valid days rfl⟩

end

end Graph

end Outreach
