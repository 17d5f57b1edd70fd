import ContractScan.Project.Resolve
import ContractScan.Proofs.Project.Opening
import ContractScan.Proofs.Text.Lines
import Mathlib.Data.List.Nodup

/-! # Where paths resolve to

Resolving is described by a relation. Names are passed one by one, a link is followed to its end before the next name
is looked at, and `..` goes up from the place that has been reached. There is at most one such place, and there is
none exactly when a link on the way leads back to itself. The resolver finds it. It tells links apart by the paths that
have led to them, and one place has several of those; but unless a link leads back to itself, the links whose targets
are being resolved have different places, so their nesting is bounded by the number of links in the tree.
-/

namespace ContractScan

namespace Path

/-- The name goes down: it neither stays nor goes up. -/
def GoesDown (name : String) : Prop :=
  name ≠ "" ∧ name ≠ "." ∧ name ≠ ".."

theorem GoesDown.not_stay {name : String} (h : GoesDown name) : ¬ (name = "" ∨ name = ".") :=
  not_or.mpr ⟨h.1, h.2.1⟩

/-- Where a written path starts that stands at a place. -/
def base (here : Path) (written : String) : Path :=
  if isAbsolute written then [] else here

theorem not_mem_of_mem_components {written name : String} (h : name ∈ components written) : '/' ∉ name.toList := by
  obtain ⟨piece, cut, rfl⟩ := List.mem_map.mp h
  rw [String.toList_ofList]
  exact Text.not_mem_of_mem_splitOn cut

end Path

open ContractScan.Path

namespace Entry

variable {root : Entry} {depth : Nat} {here place link : Path} {name target : String} {names : List String}

/-- From the place `here` the names lead to `place`, with links nested less than `depth` deep. -/
inductive Resolves (root : Entry) : (depth : Nat) → (here : Path) → (names : List String) → (place : Path) → Prop where
  | done {depth : Nat} {here : Path} : Resolves root depth here [] here
  | stay {depth : Nat} {here place : Path} {name : String} {names : List String} : name = "" ∨ name = "." →
      Resolves root depth here names place → Resolves root depth here (name :: names) place
  | up {depth : Nat} {here place : Path} {names : List String} :
      Resolves root depth here.dropLast names place → Resolves root depth here (".." :: names) place
  /-- A directory, a file, or a name under which nothing stands. -/
  | down {depth : Nat} {here place : Path} {name : String} {names : List String} : GoesDown name →
      root.Unlinked (here ++ [name]) → Resolves root depth (here ++ [name]) names place →
      Resolves root depth here (name :: names) place
  | follow {inner depth : Nat} {here middle place : Path} {name target : String} {names : List String} :
      GoesDown name → root.get? (here ++ [name]) = some (.link target) → inner < depth →
      Resolves root inner (base here target) (components target) middle → Resolves root depth middle names place →
      Resolves root depth here (name :: names) place

/-- On the way from `here` along the names a link is come upon. -/
inductive Meets (root : Entry) : (here : Path) → (names : List String) → (link : Path) → Prop where
  | stay {here link : Path} {name : String} {names : List String} : name = "" ∨ name = "." →
      Meets root here names link → Meets root here (name :: names) link
  | up {here link : Path} {names : List String} :
      Meets root here.dropLast names link → Meets root here (".." :: names) link
  | down {here link : Path} {name : String} {names : List String} : GoesDown name →
      root.Unlinked (here ++ [name]) → Meets root (here ++ [name]) names link → Meets root here (name :: names) link
  | here {here : Path} {name target : String} {names : List String} : GoesDown name →
      root.get? (here ++ [name]) = some (.link target) → Meets root here (name :: names) (here ++ [name])
  /-- On the way of the target of a link. -/
  | inside {here link : Path} {name target : String} {names : List String} : GoesDown name →
      root.get? (here ++ [name]) = some (.link target) → Meets root (base here target) (components target) link →
      Meets root here (name :: names) link
  /-- After a link has been followed. -/
  | after {depth : Nat} {here middle link : Path} {name target : String} {names : List String} : GoesDown name →
      root.get? (here ++ [name]) = some (.link target) →
      Resolves root depth (base here target) (components target) middle → Meets root middle names link →
      Meets root here (name :: names) link

/-- The link leads back to itself. -/
def Circular (root : Entry) (link : Path) : Prop :=
  ∃ target, root.get? link = some (.link target) ∧ Meets root (base link.dropLast target) (components target) link

/-- What a name can do at a place. -/
theorem name_cases (root : Entry) (here : Path) (name : String) : (name = "" ∨ name = ".") ∨ name = ".." ∨
    GoesDown name ∧ (root.Unlinked (here ++ [name]) ∨ ∃ target, root.get? (here ++ [name]) = some (.link target)) := by
  by_cases still : name = "" ∨ name = "."
  · exact .inl still
  by_cases up : name = ".."
  · exact .inr (.inl up)
  obtain ⟨full, other⟩ := not_or.mp still
  refine .inr (.inr ⟨⟨full, other, up⟩, ?_⟩)
  by_cases plain : root.Unlinked (here ++ [name])
  · exact .inl plain
  · exact .inr (by simpa [Unlinked] using plain)

theorem Unlinked.not_link (h : root.Unlinked place) (here : root.get? place = some (.link target)) : False :=
  h target here

namespace Resolves

theorem mono {deeper : Nat} (h : root.Resolves depth here names place) (le : depth ≤ deeper) :
    root.Resolves deeper here names place := by
  induction h generalizing deeper with
  | done => exact .done
  | stay still _ ih => exact .stay still (ih le)
  | up _ ih => exact .up (ih le)
  | down goes plain _ ih => exact .down goes plain (ih le)
  | follow goes isLink lower inside _ _ ih => exact .follow goes isLink (lower.trans_le le) inside (ih le)

theorem unique {other : Nat} {place' : Path} (h : root.Resolves depth here names place)
    (h' : root.Resolves other here names place') : place = place' := by
  induction h generalizing other place' with
  | done =>
      cases h'
      rfl
  | stay still _ ih =>
      cases h' with
      | stay _ rest => exact ih rest
      | up => exact absurd still (by decide)
      | down goes => exact absurd still goes.not_stay
      | follow goes => exact absurd still goes.not_stay
  | up _ ih =>
      cases h' with
      | stay still => exact absurd still (by decide)
      | up rest => exact ih rest
      | down goes => exact absurd rfl goes.2.2
      | follow goes => exact absurd rfl goes.2.2
  | down goes plain _ ih =>
      cases h' with
      | stay still => exact absurd still goes.not_stay
      | up => exact absurd rfl goes.2.2
      | down _ _ rest => exact ih rest
      | follow _ isLink => exact (plain.not_link isLink).elim
  | follow goes isLink _ _ _ ih ih' =>
      cases h' with
      | stay still => exact absurd still goes.not_stay
      | up => exact absurd rfl goes.2.2
      | down _ plain => exact (plain.not_link isLink).elim
      | follow _ isLink' _ inside rest =>
          cases isLink.symm.trans isLink'
          obtain rfl := ih inside
          exact ih' rest

/-- The target of a link that is met has been resolved on the way, and with less nesting. -/
theorem descend (h : root.Resolves depth here names place) (met : root.Meets here names link) :
    ∃ target inner middle, inner < depth ∧ root.get? link = some (.link target) ∧
      root.Resolves inner (base link.dropLast target) (components target) middle := by
  induction h generalizing link with
  | done => cases met
  | stay still _ ih =>
      cases met with
      | stay _ rest => exact ih rest
      | up => exact absurd still (by decide)
      | down goes | here goes | inside goes | after goes => exact absurd still goes.not_stay
  | up _ ih =>
      cases met with
      | stay still => exact absurd still (by decide)
      | up rest => exact ih rest
      | down goes | here goes | inside goes | after goes => exact absurd rfl goes.2.2
  | down goes plain _ ih =>
      cases met with
      | stay still => exact absurd still goes.not_stay
      | up => exact absurd rfl goes.2.2
      | down _ _ rest => exact ih rest
      | here _ isLink | inside _ isLink | after _ isLink => exact (plain.not_link isLink).elim
  | @follow inner depth here middle place name target names goes isLink lower inside _ ih ih' =>
      cases met with
      | stay still => exact absurd still goes.not_stay
      | up => exact absurd rfl goes.2.2
      | down _ plain => exact (plain.not_link isLink).elim
      | here => exact ⟨target, inner, middle, lower, isLink, by rwa [List.dropLast_concat]⟩
      | inside _ isLink' met =>
          cases isLink.symm.trans isLink'
          obtain ⟨target, deeper, end', less, found⟩ := ih met
          exact ⟨target, deeper, end', less.trans lower, found⟩
      | after _ isLink' inside' met =>
          cases isLink.symm.trans isLink'
          obtain rfl := inside.unique inside'
          exact ih' met

end Resolves

/-- A link whose target resolves cannot be met on the way of its target: each meeting would be nested deeper. -/
theorem not_circular_of_resolves (isLink : root.get? link = some (.link target))
    (h : root.Resolves depth (base link.dropLast target) (components target) place) : ¬ root.Circular link := by
  rintro ⟨target', isLink', met⟩
  cases isLink.symm.trans isLink'
  induction depth using Nat.strongRecOn generalizing place with
  | ind depth ih =>
      obtain ⟨target', inner, middle, less, isLink', inside⟩ := h.descend met
      cases isLink.symm.trans isLink'
      exact ih inner less inside

theorem Resolves.not_circular (h : root.Resolves depth here names place) (met : root.Meets here names link) :
    ¬ root.Circular link := by
  obtain ⟨target, inner, middle, -, isLink, inside⟩ := h.descend met
  exact not_circular_of_resolves isLink inside

section LinkPlaces

mutual

def linkPlaces : Entry → List Path
  | .file _ => []
  | .link _ => [[]]
  | .directory entries => linkPlacesList entries

def linkPlacesList : List (String × Entry) → List Path
  | [] => []
  | (name, entry) :: entries => (linkPlaces entry).map (name :: ·) ++ linkPlacesList entries

end

mutual

theorem length_linkPlaces (entry : Entry) : entry.linkPlaces.length = entry.linkCount := by
  cases entry with
  | file | link => rfl
  | directory entries => exact length_linkPlacesList entries

theorem length_linkPlacesList (entries : List (String × Entry)) :
    (linkPlacesList entries).length = linkCountList entries := by
  cases entries with
  | nil => rfl
  | cons first entries =>
      rw [linkPlacesList, List.length_append, List.length_map, linkCountList, length_linkPlaces first.2,
        length_linkPlacesList entries]

end

theorem mem_linkPlacesList {entries : List (String × Entry)} {below : Entry}
    (found : entries.lookup name = some below) (inside : place ∈ below.linkPlaces) :
    name :: place ∈ linkPlacesList entries := by
  induction entries with
  | nil => cases found
  | cons first entries ih =>
      obtain ⟨other, entry⟩ := first
      rw [linkPlacesList, List.mem_append]
      by_cases same : name = other
      · subst same
        rw [List.lookup_cons_self] at found
        cases found
        exact .inl (List.mem_map_of_mem inside)
      · rw [List.lookup_cons, beq_false_of_ne same] at found
        exact .inr (ih found)

theorem mem_linkPlaces (isLink : root.get? place = some (.link target)) : place ∈ root.linkPlaces := by
  induction place generalizing root with
  | nil =>
      cases isLink
      exact List.mem_singleton.mpr rfl
  | cons name place ih =>
      cases root with
      | directory entries =>
          rw [get?] at isLink
          obtain ⟨below, found, isLink⟩ := Option.bind_eq_some_iff.mp isLink
          exact mem_linkPlacesList found (ih isLink)
      | _ => cases isLink

/-- Different links are no more than there are in the tree. -/
theorem length_le_linkCount {places : List Path} (distinct : places.Nodup)
    (links : ∀ place ∈ places, ∃ target, root.get? place = some (.link target)) :
    places.length ≤ root.linkCount := by
  rw [← length_linkPlaces]
  refine distinct.length_le_of_subset ?_
  intro place member
  obtain ⟨target, isLink⟩ := links place member
  exact mem_linkPlaces isLink

end LinkPlaces

end Entry

namespace Spot

variable (here : Spot) (workingDirectory : Path)

theorem place_base (written : String) :
    (here.base written).place workingDirectory = Path.base (here.place workingDirectory) written := by
  unfold base Path.base
  split <;> rfl

theorem place_down (name : String) :
    (here.down name).place workingDirectory = here.place workingDirectory ++ [name] := by
  unfold place down
  cases here.origin <;> simp

theorem place_up : here.up.place workingDirectory = (here.place workingDirectory).dropLast := by
  obtain ⟨origin, names⟩ := here
  cases origin with
  | root => rfl
  | above levels =>
      rcases names.eq_nil_or_concat' with rfl | ⟨names, name, rfl⟩
      · simp only [up, place, List.append_nil, List.dropLast_eq_take, List.length_take, List.take_take]
        congr 1
        omega
      · simp [up, place, ← List.append_assoc]

end Spot

namespace FileSystem

variable {files : FileSystem} {seen later : Seen} {here spot link : Spot} {name target : String} {names : List String}
  {follow : Seen → Spot → String → Resolution × Seen}

theorem placeOf_base : files.placeOf (here.base target) = base (files.placeOf here) target :=
  here.place_base _ target

theorem placeOf_up : files.placeOf here.up = (files.placeOf here).dropLast :=
  here.place_up _

theorem placeOf_down : files.placeOf (here.down name) = files.placeOf here ++ [name] :=
  here.place_down _ name

theorem dropLast_placeOf_down : (files.placeOf (here.down name)).dropLast = files.placeOf here := by
  rw [placeOf_down, List.dropLast_concat]

/-- The target of the link at a spot has been resolved, and led to this one. -/
def LeadsTo (files : FileSystem) (link spot : Spot) : Prop :=
  ∃ target depth, files.root.get? (files.placeOf link) = some (.link target) ∧
    files.root.Resolves depth (base (files.placeOf link).dropLast target) (components target) (files.placeOf spot)

theorem LeadsTo.resolves (leads : files.LeadsTo (here.down name) spot)
    (isLink : files.root.get? (files.placeOf here ++ [name]) = some (.link target)) :
    ∃ depth, files.root.Resolves depth (base (files.placeOf here) target) (components target) (files.placeOf spot) := by
  obtain ⟨_, depth, isLink', inside⟩ := leads
  rw [placeOf_down] at isLink'
  rw [dropLast_placeOf_down] at inside
  cases isLink.symm.trans isLink'
  exact ⟨depth, inside⟩

/-- What is known of the links that have been seen is right. -/
def Known (files : FileSystem) (seen : Seen) : Prop :=
  ∀ link spot, seen.lookup link = some (some spot) → files.LeadsTo link spot

theorem Known.nil : files.Known [] := by
  intro link spot found
  cases found

theorem Known.cons (known : files.Known seen) {known? : Option Spot}
    (right : ∀ spot, known? = some spot → files.LeadsTo link spot) : files.Known ((link, known?) :: seen) := by
  intro other spot found
  rw [List.lookup_cons] at found
  split at found
  · rename_i same
    rw [eq_of_beq same]
    exact right spot (Option.some.inj found)
  · exact known other spot found

/-- Of a link that is being followed nothing is known yet. -/
theorem Known.begin (known : files.Known seen) : files.Known ((link, none) :: seen) :=
  known.cons (by simp)

theorem Known.finish (known : files.Known seen) (leads : files.LeadsTo link spot) :
    files.Known ((link, some spot) :: seen) := by
  refine known.cons ?_
  rintro _ ⟨⟩
  exact leads

/-- Every link that is being followed in the end was so before. -/
def Settles (seen later : Seen) : Prop :=
  ∀ link, later.lookup link = some none → seen.lookup link = some none

theorem Settles.of_followed {between : Seen} (before : Settles ((link, none) :: seen) between)
    (after : Settles ((link, some spot) :: between) later) : Settles seen later := by
  intro other active
  have found := after other active
  rw [List.lookup_cons] at found
  split at found
  · cases found
  · rename_i apart
    have found := before other found
    rwa [List.lookup_cons, apart] at found

theorem resolveWith_stay (still : name = "" ∨ name = ".") :
    files.resolveWith follow seen here (name :: names) = files.resolveWith follow seen here names := by
  rw [resolveWith, if_pos (by simpa using still)]

theorem resolveWith_up :
    files.resolveWith follow seen here (".." :: names) = files.resolveWith follow seen here.up names := by
  rw [resolveWith, if_neg (by decide), if_pos rfl]

theorem resolveWith_down (goes : GoesDown name) (plain : files.root.Unlinked (files.placeOf (here.down name))) :
    files.resolveWith follow seen here (name :: names) = files.resolveWith follow seen (here.down name) names := by
  rw [resolveWith, if_neg (by simpa using ⟨goes.1, goes.2.1⟩), if_neg goes.2.2]
  dsimp only
  split
  · rename_i isLink
    exact (plain.not_link isLink).elim
  · rfl

theorem resolveWith_link (goes : GoesDown name)
    (isLink : files.root.get? (files.placeOf (here.down name)) = some (.link target)) :
    files.resolveWith follow seen here (name :: names) =
      match seen.lookup (here.down name) with
      | some (some spot) => files.resolveWith follow seen spot names
      | some none => (.stuck (Path.join (here.down name).text ("/".intercalate names)), seen)
      | none =>
        match follow ((here.down name, none) :: seen) here target with
        | (.done spot, seen) => files.resolveWith follow ((here.down name, some spot) :: seen) spot names
        | (.stuck written, seen) => (.stuck (Path.join written ("/".intercalate names)), seen)
        | (.endless link, seen) => (.endless link, seen) := by
  rw [resolveWith, if_neg (by simpa using ⟨goes.1, goes.2.1⟩), if_neg goes.2.2]
  dsimp only
  split
  · rename_i found
    cases isLink.symm.trans found
    rfl
  · rename_i other
    exact (other target isLink).elim

/-- The names have led from a place to a spot, and nothing that is known of links has become wrong. -/
structure Reaches (files : FileSystem) (seen : Seen) (here : Path) (names : List String) (spot : Spot)
    (later : Seen) : Prop where
  resolves : ∃ depth, files.root.Resolves depth here names (files.placeOf spot)
  known : files.Known later
  settles : Settles seen later

/-- A link leads to where its target has been resolved to. -/
theorem Reaches.leadsTo (reached : files.Reaches seen (base (files.placeOf here) target) (components target) spot later)
    (isLink : files.root.get? (files.placeOf (here.down name)) = some (.link target)) :
    files.LeadsTo (here.down name) spot := by
  obtain ⟨depth, inside⟩ := reached.resolves
  exact ⟨target, depth, isLink, by rwa [dropLast_placeOf_down]⟩

/-- The places of all links that are being followed are in the list. -/
def Follows (files : FileSystem) (seen : Seen) (active : List Path) : Prop :=
  ∀ link, seen.lookup link = some none → files.placeOf link ∈ active

section Targets

variable (followed : ∀ {seen here target spot later}, files.Known seen →
  follow seen here target = (.done spot, later) →
    files.Reaches seen (base (files.placeOf here) target) (components target) spot later)

include followed

/-- Resolving that comes to an end has come to the place of the names, if this holds of the targets of links. -/
theorem resolveWith_done (known : files.Known seen)
    (ended : files.resolveWith follow seen here names = (.done spot, later)) :
    files.Reaches seen (files.placeOf here) names spot later := by
  induction names generalizing seen here with
  | nil =>
      cases ended
      exact ⟨⟨0, .done⟩, known, fun _ => id⟩
  | cons name names ih =>
      rcases Entry.name_cases files.root (files.placeOf here) name with still | rfl | ⟨goes, plain | ⟨target, isLink⟩⟩
      · rw [resolveWith_stay still] at ended
        obtain ⟨⟨depth, resolves⟩, known, settles⟩ := ih known ended
        exact ⟨⟨depth, .stay still resolves⟩, known, settles⟩
      · rw [resolveWith_up] at ended
        obtain ⟨⟨depth, resolves⟩, known, settles⟩ := ih known ended
        rw [placeOf_up] at resolves
        exact ⟨⟨depth, .up resolves⟩, known, settles⟩
      · rw [resolveWith_down goes (by rwa [placeOf_down])] at ended
        obtain ⟨⟨depth, resolves⟩, known, settles⟩ := ih known ended
        rw [placeOf_down] at resolves
        exact ⟨⟨depth, .down goes plain resolves⟩, known, settles⟩
      · -- The link is followed, now or before, and the names after it go on from where it leads to.
        have goesOn {seen : Seen} {middle : Spot} (known : files.Known seen)
            (leads : files.LeadsTo (here.down name) middle)
            (ended : files.resolveWith follow seen middle names = (.done spot, later)) :
            files.Reaches seen (files.placeOf here) (name :: names) spot later := by
          obtain ⟨⟨depth, resolves⟩, known, settles⟩ := ih known ended
          obtain ⟨inner, inside⟩ := leads.resolves isLink
          exact ⟨⟨max (inner + 1) depth, .follow goes isLink (by omega) inside (resolves.mono (by omega))⟩,
            known, settles⟩
        rw [← placeOf_down] at isLink
        rw [resolveWith_link goes isLink] at ended
        split at ended
        · rename_i middle found
          exact goesOn known (known _ _ found) ended
        · cases ended
        · split at ended
          · rename_i middle between made
            have inside := followed known.begin made
            have leads := inside.leadsTo isLink
            have reached := goesOn (inside.known.finish leads) leads ended
            exact ⟨reached.resolves, reached.known, inside.settles.of_followed reached.settles⟩
          · cases ended
          · cases ended

/-- Resolving that does not come to an end has met a link that is being followed or leads back to itself, if this holds
of the targets of links. -/
theorem resolveWith_stopped {active : List Path}
    (stopped : ∀ {seen here name target}, files.Known seen → files.Follows seen active →
      files.root.get? (files.placeOf (here.down name)) = some (.link target) →
      (∀ spot, (follow ((here.down name, none) :: seen) here target).1 ≠ .done spot) →
      ∃ met, (met = files.placeOf (here.down name) ∨
        files.root.Meets (base (files.placeOf here) target) (components target) met) ∧
        (met ∈ active ∨ files.root.Circular met))
    (known : files.Known seen) (follows : files.Follows seen active)
    (never : ∀ spot, (files.resolveWith follow seen here names).1 ≠ .done spot) :
    ∃ met, files.root.Meets (files.placeOf here) names met ∧ (met ∈ active ∨ files.root.Circular met) := by
  induction names generalizing seen here with
  | nil => exact absurd rfl (never here)
  | cons name names ih =>
      rcases Entry.name_cases files.root (files.placeOf here) name with still | rfl | ⟨goes, plain | ⟨target, isLink⟩⟩
      · rw [resolveWith_stay still] at never
        obtain ⟨met, meets, bad⟩ := ih known follows never
        exact ⟨met, .stay still meets, bad⟩
      · rw [resolveWith_up] at never
        obtain ⟨met, meets, bad⟩ := ih known follows never
        rw [placeOf_up] at meets
        exact ⟨met, .up meets, bad⟩
      · rw [resolveWith_down goes (by rwa [placeOf_down])] at never
        obtain ⟨met, meets, bad⟩ := ih known follows never
        rw [placeOf_down] at meets
        exact ⟨met, .down goes plain meets, bad⟩
      · have goesOn {seen : Seen} {middle : Spot} (known : files.Known seen) (follows : files.Follows seen active)
            (leads : files.LeadsTo (here.down name) middle)
            (never : ∀ spot, (files.resolveWith follow seen middle names).1 ≠ .done spot) :
            ∃ met, files.root.Meets (files.placeOf here) (name :: names) met ∧
              (met ∈ active ∨ files.root.Circular met) := by
          obtain ⟨met, meets, bad⟩ := ih known follows never
          obtain ⟨inner, inside⟩ := leads.resolves isLink
          exact ⟨met, .after goes isLink inside meets, bad⟩
        have halts (met : Path) (meets : met = files.placeOf (here.down name) ∨
            files.root.Meets (base (files.placeOf here) target) (components target) met) :
            files.root.Meets (files.placeOf here) (name :: names) met := by
          rcases meets with rfl | meets
          · rw [placeOf_down]
            exact .here goes isLink
          · exact .inside goes isLink meets
        rw [← placeOf_down] at isLink
        rw [resolveWith_link goes isLink] at never
        split at never
        · rename_i middle found
          exact goesOn known follows (known _ _ found) never
        · rename_i found
          exact ⟨_, halts _ (.inl rfl), .inl (follows _ found)⟩
        · cases made : follow ((here.down name, none) :: seen) here target with
          | mk result between =>
              have stops := stopped known follows isLink
              rw [made] at never stops
              cases result with
              | done middle =>
                  have inside := followed known.begin made
                  have leads := inside.leadsTo isLink
                  have settled : Settles seen ((here.down name, some middle) :: between) :=
                    inside.settles.of_followed fun _ => id
                  exact goesOn (inside.known.finish leads) (fun link active => follows link (settled link active))
                    leads never
              | stuck written =>
                  obtain ⟨met, meets, bad⟩ := stops (by simp)
                  exact ⟨met, halts met meets, bad⟩
              | endless link =>
                  obtain ⟨met, meets, bad⟩ := stops (by simp)
                  exact ⟨met, halts met meets, bad⟩

end Targets

theorem resolveFrom_done {fuel : Nat} (known : files.Known seen)
    (ended : files.resolveFrom fuel seen here names = (.done spot, later)) :
    files.Reaches seen (files.placeOf here) names spot later := by
  induction fuel generalizing seen here names spot later with
  | zero => cases ended
  | succ fuel ih =>
      refine resolveWith_done ?_ known ended
      intro seen here target spot later known made
      have reached := ih known made
      rwa [placeOf_base] at reached

/-- The links that are being followed have different places, or one of them leads back to itself. So the fuel is used up
only in the second case. -/
theorem resolveFrom_stopped (fuel : Nat) {active : List Path} (distinct : active.Nodup)
    (links : ∀ link ∈ active, ∃ target, files.root.get? link = some (.link target))
    (enough : files.root.linkCount < fuel + active.length) (known : files.Known seen)
    (follows : files.Follows seen active) (never : ∀ spot, (files.resolveFrom fuel seen here names).1 ≠ .done spot) :
    ∃ met, files.root.Meets (files.placeOf here) names met ∧ (met ∈ active ∨ files.root.Circular met) := by
  induction fuel generalizing active seen here names with
  | zero =>
      have few := Entry.length_le_linkCount distinct links
      omega
  | succ fuel ih =>
      refine resolveWith_stopped ?_ ?_ known follows never
      · intro seen here target spot later known made
        have reached := resolveFrom_done known made
        rwa [placeOf_base] at reached
      · intro seen here name target known follows isLink never
        by_cases again : files.placeOf (here.down name) ∈ active
        · exact ⟨_, .inl rfl, .inl again⟩
        have follows' : files.Follows ((here.down name, none) :: seen) (files.placeOf (here.down name) :: active) := by
          intro link found
          rw [List.lookup_cons] at found
          split at found
          · rename_i same
            rw [eq_of_beq same]
            exact .head _
          · exact .tail _ (follows link found)
        obtain ⟨met, meets, bad⟩ := ih (List.nodup_cons.mpr ⟨again, distinct⟩)
          (List.forall_mem_cons.mpr ⟨⟨target, isLink⟩, links⟩) (by rw [List.length_cons]; omega)
          known.begin follows' never
        rw [placeOf_base] at meets
        rcases bad with isActive | circular
        · rcases List.mem_cons.mp isActive with rfl | isActive
          -- The link is met again on the way of its own target.
          · exact ⟨_, .inl rfl, .inr ⟨target, isLink, by rwa [dropLast_placeOf_down]⟩⟩
          · exact ⟨met, .inr meets, .inl isActive⟩
        · exact ⟨met, .inr meets, .inr circular⟩

/-- Resolving comes to the place of the names, or a link on their way leads back to itself. -/
theorem resolveFrom_cases (files : FileSystem) (here : Spot) (names : List String) :
    (∃ depth spot, (files.resolveFrom files.maxNesting [] here names).1 = .done spot ∧
      files.root.Resolves depth (files.placeOf here) names (files.placeOf spot)) ∨
    ∃ met, files.root.Meets (files.placeOf here) names met ∧ files.root.Circular met := by
  have enough : files.root.linkCount < files.maxNesting + ([] : List Path).length := by
    rw [maxNesting, List.length_nil]
    omega
  cases made : files.resolveFrom files.maxNesting [] here names with
  | mk result later =>
      by_cases ended : ∃ spot, result = .done spot
      · obtain ⟨spot, rfl⟩ := ended
        obtain ⟨⟨depth, resolves⟩, -, -⟩ := resolveFrom_done .nil made
        exact .inl ⟨depth, spot, rfl, resolves⟩
      · obtain ⟨met, meets, isActive | circular⟩ := resolveFrom_stopped files.maxNesting List.nodup_nil (by simp)
          enough .nil (by simp [Follows])
          (fun spot isDone => ended ⟨spot, by rwa [made] at isDone⟩)
        · cases isActive
        · exact .inr ⟨met, meets, circular⟩

end FileSystem

end ContractScan
