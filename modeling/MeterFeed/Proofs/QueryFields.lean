import MeterFeed.Proofs.CivilInstant
import MeterFeed.Proofs.NameLists

/-!
# A URL identifies its query

The URL of a query is written without escapes, and still says which query it is: the names have no
comma and no ampersand in them, and neither has a time text, so an ampersand ends each field
(`Query.toList_url`) and a comma each name but the last one (`joinNames_inj`). Fields that differ
make URLs that differ, but for what a time text leaves out, the fraction of a second; together with
the slashes that a base URL may end in this is `Query.url_identifies`.
-/

namespace MeterFeed

/-! ## Joined names -/

/-- Names that a query can hold: at least one, and no separator in any of them. -/
structure ProperNames (names : List String) : Prop where
  nonempty : names ≠ []
  no_comma : ∀ name ∈ names, ',' ∉ name.toList
  no_ampersand : ∀ name ∈ names, '&' ∉ name.toList

section Names
variable {names others : List String}

theorem joinNames_inj (h : ProperNames names) (hothers : ProperNames others) :
    joinNames names = joinNames others ↔ names = others := by
  refine ⟨fun heq => ?_, congrArg joinNames⟩
  have hsplit : names.map String.toList = others.map String.toList := by
    rw [← splitOn_joinNames h.nonempty h.no_comma,
      ← splitOn_joinNames hothers.nonempty hothers.no_comma, heq]
  exact (List.map_inj_right fun _ _ => String.toList_inj.mp).mp hsplit

theorem eq_or_mem_of_mem_intercalate {c separator : Char} {texts : List (List Char)}
    (h : c ∈ List.intercalate [separator] texts) : c = separator ∨ ∃ text ∈ texts, c ∈ text := by
  induction texts with
  | nil => cases h
  | cons text rest ih =>
    by_cases hrest : rest = []
    · subst hrest
      rw [List.intercalate_singleton] at h
      exact .inr ⟨text, List.mem_cons_self, h⟩
    · rw [List.intercalate_cons_of_ne_nil hrest, List.append_assoc, List.mem_append,
        List.mem_append, List.mem_singleton] at h
      rcases h with h | h | h
      · exact .inr ⟨text, List.mem_cons_self, h⟩
      · exact .inl h
      · refine (ih h).imp_right fun ⟨other, hother, hc⟩ => ?_
        exact ⟨other, List.mem_cons_of_mem _ hother, hc⟩

theorem ampersand_not_mem_joinNames (h : ProperNames names) : '&' ∉ (joinNames names).toList := by
  unfold joinNames
  rw [String.toList_ofList]
  intro hmem
  rcases eq_or_mem_of_mem_intercalate hmem with heq | ⟨_, htext, hc⟩
  · cases heq
  · obtain ⟨name, hname, rfl⟩ := List.mem_map.mp htext
    exact h.no_ampersand name hname hc

end Names

/-! ## Time texts -/

theorem Layout.not_mem_digits {c : Char} (h : c.isDigit = false) (n : Nat) : c ∉ digits n := by
  intro hmem
  rw [isDigit_of_mem_digits hmem] at h
  cases h

theorem DateTime.not_mem_padded {c : Char} (h : c.isDigit = false) (w n : Nat) :
    c ∉ padded w n := by
  unfold padded Layout.padded
  rw [List.mem_append, not_or]
  refine ⟨fun hzero => ?_, Layout.not_mem_digits h n⟩
  rw [(List.mem_replicate.mp hzero).2] at h
  cases h

theorem ApiTime.ampersand_not_mem_text {t : DateTime} {s : String} (h : text t = .ok s) :
    '&' ∉ s.toList := by
  obtain ⟨civil, -, rfl⟩ := text_eq_ok h
  have hdigits := Layout.not_mem_digits (c := '&') rfl
  have hpadded := DateTime.not_mem_padded (c := '&') rfl
  rw [String.toList_ofList]
  unfold write DateTime.writeTime
  simp only [List.mem_append, List.mem_cons, hdigits, hpadded, or_false]
  decide

def DateTime.SameSecond (a b : DateTime) : Prop :=
  ∃ i j, a.instant? = some i ∧ b.instant? = some j ∧ i / 1000000 = j / 1000000

theorem DateTime.Showable.exists_instant {t : DateTime} (h : t.Showable) :
    ∃ i, t.instant? = some i := by
  obtain ⟨offset, hoffset⟩ := Option.isSome_iff_exists.mp h.1
  exact ⟨_, congrArg (Option.map _) hoffset⟩

theorem ApiTime.text_eq_text_iff_sameSecond {a b : DateTime} {s t : String} (ha : a.Showable)
    (hb : b.Showable) (hs : text a = .ok s) (ht : text b = .ok t) :
    s = t ↔ a.SameSecond b := by
  obtain ⟨i, hi⟩ := ha.exists_instant
  obtain ⟨j, hj⟩ := hb.exists_instant
  rw [text_eq_text_iff hi hj hs ht]
  constructor
  · exact fun h => ⟨i, j, hi, hj, h⟩
  · rintro ⟨i', j', hi', hj', h⟩
    cases hi.symm.trans hi'
    cases hj.symm.trans hj'
    exact h

/-! ## URLs -/

def Window.Showable (w : Window) : Prop :=
  w.start.Showable ∧ w.finish.Showable

namespace Query

theorem withoutSlashes_append (base : String) (n : Nat) :
    withoutSlashes (base ++ String.ofList (List.replicate n '/')) = withoutSlashes base := by
  unfold withoutSlashes
  rw [String.toList_append, String.toList_ofList, List.reverse_append, List.reverse_replicate,
    List.dropWhile_append_of_pos]
  intro c hc
  rw [(List.mem_replicate.mp hc).2]
  rfl

theorem url_slashes (q : Query) (n : Nat) :
    url { q with baseUrl := q.baseUrl ++ String.ofList (List.replicate n '/') } = q.url := by
  unfold url
  dsimp only
  rw [withoutSlashes_append]

theorem toList_url (q : Query) (h : q.window.Showable) : ∃ u start finish,
    q.url = .ok u ∧ ApiTime.text q.window.start = .ok start ∧
      ApiTime.text q.window.finish = .ok finish ∧
      u.toList = (withoutSlashes q.baseUrl ++ "/sites/" ++ q.site ++ "/metrics?nodes=").toList ++
        (q.hosts.toList ++ '&' :: ("metrics=".toList ++ (q.metrics.toList ++
          '&' :: ("start_time=".toList ++ (start.toList ++
            '&' :: ("end_time=".toList ++ finish.toList)))))) := by
  obtain ⟨⟨-, start, hstart⟩, -, finish, hfinish⟩ := h
  have hurl : q.url = .ok (withoutSlashes q.baseUrl ++ "/sites/" ++ q.site ++
      "/metrics?nodes=" ++ q.hosts ++ "&metrics=" ++ q.metrics ++
      "&start_time=" ++ start ++ "&end_time=" ++ finish) := by
    unfold url
    rw [hstart, hfinish]
  refine ⟨_, start, finish, hurl, hstart, hfinish, ?_⟩
  simp only [String.toList_append, List.append_assoc]
  rfl

/-- A text says what stands before its first ampersand, and what stands behind it. -/
theorem fields_inj {a b x y : List Char} (ha : '&' ∉ a) (hb : '&' ∉ b) :
    a ++ '&' :: x = b ++ '&' :: y ↔ a = b ∧ x = y := by
  refine ⟨fun h => ?_, fun ⟨hab, hxy⟩ => hab ▸ hxy ▸ rfl⟩
  have hends (cs rest : List Char) (hcs : '&' ∉ cs) :
      (cs ++ '&' :: rest).takeWhile (· != '&') = cs := by
    have hall : ∀ c ∈ cs, (c != '&') = true := fun c hc =>
      bne_iff_ne.mpr fun heq => hcs (heq ▸ hc)
    refine (span_append hall ?_).1
    rintro _ ⟨⟩
    rfl
  obtain rfl : a = b := by rw [← hends a x ha, h, hends b y hb]
  exact ⟨rfl, List.tail_eq_of_cons_eq (List.append_cancel_left h)⟩

/-- **A URL identifies its query.** Of one base URL and site, the URLs of two queries for windows
that can be shown are equal if and only if the queries ask for the same hosts and for the same
metrics, in order, and their windows start in one second and finish in one second. Slashes at the
end of the base URL change nothing. -/
theorem url_identifies (base site : String) :
    (∀ (hosts hosts' metrics metrics' : List String) (v w : Window),
      ProperNames hosts → ProperNames hosts' → ProperNames metrics → ProperNames metrics' →
      v.Showable → w.Showable →
      ∃ u u', url ⟨base, site, joinNames hosts, joinNames metrics, v⟩ = .ok u ∧
        url ⟨base, site, joinNames hosts', joinNames metrics', w⟩ = .ok u' ∧
        (u = u' ↔ hosts = hosts' ∧ metrics = metrics' ∧ v.start.SameSecond w.start ∧
          v.finish.SameSecond w.finish)) ∧
    ∀ (q : Query) (n : Nat),
      url { q with baseUrl := q.baseUrl ++ String.ofList (List.replicate n '/') } = q.url := by
  refine ⟨?_, url_slashes⟩
  intro hosts hosts' metrics metrics' v w hhosts hhosts' hmetrics hmetrics' hv hw
  obtain ⟨u, start, finish, hu, hstart, hfinish, hfields⟩ :=
    toList_url ⟨base, site, joinNames hosts, joinNames metrics, v⟩ hv
  obtain ⟨u', start', finish', hu', hstart', hfinish', hfields'⟩ :=
    toList_url ⟨base, site, joinNames hosts', joinNames metrics', w⟩ hw
  refine ⟨u, u', hu, hu', ?_⟩
  rw [← String.toList_inj, hfields, hfields', List.append_cancel_left_eq,
    fields_inj (ampersand_not_mem_joinNames hhosts) (ampersand_not_mem_joinNames hhosts'),
    List.append_cancel_left_eq,
    fields_inj (ampersand_not_mem_joinNames hmetrics) (ampersand_not_mem_joinNames hmetrics'),
    List.append_cancel_left_eq,
    fields_inj (ApiTime.ampersand_not_mem_text hstart) (ApiTime.ampersand_not_mem_text hstart'),
    List.append_cancel_left_eq]
  simp only [String.toList_inj]
  rw [joinNames_inj hhosts hhosts', joinNames_inj hmetrics hmetrics',
    ApiTime.text_eq_text_iff_sameSecond hv.1 hw.1 hstart hstart',
    ApiTime.text_eq_text_iff_sameSecond hv.2 hw.2 hfinish hfinish']

/-- Two windows in one second on two clocks, with the same URL; and another one for fewer hosts. -/
theorem url_identifies_one_second : ∃ (v w : Window) (u u' : String),
    v.start ≠ w.start ∧ (v.start.SameSecond w.start ∧ v.finish.SameSecond w.finish) ∧
    url ⟨"https://api.grid5000.fr/stable/", "lyon", joinNames ["taurus-7", "taurus-8"],
      joinNames ["power"], v⟩ = .ok u ∧
    url ⟨"https://api.grid5000.fr/stable/", "lyon", joinNames ["taurus-7", "taurus-8"],
      joinNames ["power"], w⟩ = .ok u ∧
    url ⟨"https://api.grid5000.fr/stable/", "lyon", joinNames ["taurus-7"],
      joinNames ["power"], w⟩ = .ok u' ∧ u ≠ u' := by
  let v : Window := ⟨⟨63844847999500000, some 5400000000, by decide⟩,
    ⟨63844847999600000, some 5400000000, by decide⟩, by decide, by decide⟩
  let w : Window := ⟨⟨63844842599000000, some 0, by decide⟩,
    ⟨63844842599999999, some 0, by decide⟩, by decide, by decide⟩
  have hv : v.Showable := ⟨⟨rfl, "2024-03-01T00:29:59", by decide +kernel⟩,
    rfl, "2024-03-01T00:29:59", by decide +kernel⟩
  have hw : w.Showable := ⟨⟨rfl, "2024-03-01T00:29:59", by decide +kernel⟩,
    rfl, "2024-03-01T00:29:59", by decide +kernel⟩
  have hsecond : v.start.SameSecond w.start ∧ v.finish.SameSecond w.finish :=
    ⟨⟨_, _, rfl, rfl, by decide⟩, _, _, rfl, rfl, by decide⟩
  have hhosts : ProperNames ["taurus-7", "taurus-8"] := ⟨by decide, by decide, by decide⟩
  have hhost : ProperNames ["taurus-7"] := ⟨by decide, by decide, by decide⟩
  have hmetrics : ProperNames ["power"] := ⟨by decide, by decide, by decide⟩
  obtain ⟨hsame, -⟩ := url_identifies "https://api.grid5000.fr/stable/" "lyon"
  obtain ⟨u, u', hu, hu', hiff⟩ := hsame _ _ _ _ v w hhosts hhosts hmetrics hmetrics hv hw
  obtain ⟨s, s', hs, hs', hiff'⟩ := hsame _ _ _ _ w w hhosts hhost hmetrics hmetrics hw hw
  obtain rfl : u = u' := hiff.mpr ⟨rfl, rfl, hsecond⟩
  obtain rfl : u = s := Except.ok.inj (hu'.symm.trans hs)
  refine ⟨v, w, u, s', by decide, hsecond, hu, hu', hs', fun heq => ?_⟩
  exact absurd (hiff'.mp heq).1 (by decide)

end Query

end MeterFeed
