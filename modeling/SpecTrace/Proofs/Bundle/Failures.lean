import SpecTrace.Proofs.Bundle.Runs

/-! A fault that is raised anywhere in a walk is what the whole walk answers. -/

namespace SpecTrace

open Relation

variable {context : BundleContext} {depth : Nat} {visit : Visit} {s t : BundleState}
  {fault : AuditFault}

/-- A member is walked before the others, unless it makes a reference and stays. -/
theorem walkMembers_cons (follow : Follow) (beside : Bool) (key : String) (value : Json)
    (rest : List (String × Json)) (site : Site) :
    walkMembers context follow beside ((key, value) :: rest) site =
      (if beside && key = referenceKey then pure value
        else walk context follow value (site.child key)) >>= fun walked =>
          walkMembers context follow beside rest site >>= fun others =>
            pure ((key, walked) :: others) := by
  -- The two branches differ only in the value of the member, not in how the others follow.
  rw [walkMembers]
  by_cases skipped : (beside && decide (key = referenceKey)) = true
  · rw [if_pos skipped, if_pos skipped]
  · rw [if_neg skipped, if_neg skipped]

/-- Members behind others are walked where those end. -/
theorem runFrom_walkMembers_append (follow : Follow) (beside : Bool)
    (front back : List (String × Json)) (site : Site) (s : BundleState) :
    runFrom (walkMembers context follow beside (front ++ back) site) s =
      match runFrom (walkMembers context follow beside front site) s with
      | (.error fault, t) => (.error fault, t)
      | (.ok walked, t) =>
        match runFrom (walkMembers context follow beside back site) t with
        | (.error fault, u) => (.error fault, u)
        | (.ok others, u) => (.ok (walked ++ others), u) := by
  -- By induction on the members in front, from whatever state they are walked in.
  induction front generalizing s with
  | nil =>
    simp only [List.nil_append, walkMembers, runFrom_pure]
    rcases runFrom (walkMembers context follow beside back site) s with ⟨answer, u⟩
    cases answer <;> rfl
  | cons member rest ih =>
    rcases member with ⟨key, value⟩
    simp only [List.cons_append, walkMembers_cons, runFrom_bind]
    -- The first member is walked alike on both sides; its fault ends both.
    rcases runFrom (if (beside && decide (key = referenceKey)) = true then pure value
      else walk context follow value (site.child key)) s with ⟨first, t⟩
    cases first with
    | error fault => rfl
    | ok walked =>
      dsimp only
      rw [ih t]
      rcases runFrom (walkMembers context follow beside rest site) t with ⟨behind, u⟩
      cases behind with
      | error fault => rfl
      | ok others =>
        -- The members of the back follow from the same state.
        dsimp only [runFrom_pure]
        rcases runFrom (walkMembers context follow beside back site) u with ⟨last, v⟩
        cases last <;> rfl

/-- A child that fails behind walked children fails all of them. -/
theorem walkMembers_error {beside : Bool} {children before behind : List (String × Node)}
    {segment : String} {node : Node} {members : List (String × Json)} {s₁ : BundleState}
    (split : children = before ++ (segment, node) :: behind)
    (earlier : WalkedChildren context (depth + 1) visit beside before s members s₁)
    (walks : beside = true → segment ≠ referenceKey)
    (failed : Call.run context ⟨depth + 1, visit.child segment node, s₁⟩ = (.error fault, t)) :
    runFrom (walkMembers context (walkWithin context depth) beside
      (plainMembers children) visit.place) s = (.error fault, t) := by
  -- What was walked before the child ended in the state in which it starts.
  rw [split, plainMembers, List.map_append, runFrom_walkMembers_append]
  have ran := earlier.run depth rfl
  unfold plainMembers at ran
  simp only [ran, List.map_cons, walkMembers_cons]
  -- The child is walked, since it is not the member that makes a reference.
  rw [if_neg (by simpa using walks)]
  have here : runFrom (walk context (walkWithin context depth) node.toJson
    (visit.place.child segment)) s₁ = (.error fault, t) := failed
  rw [runFrom_bind_error here]

/-- A node that is no reference fails with its children. -/
theorem run_children_error (plain : visit.node.reference? = none)
    (failed : runFrom (walkMembers context (walkWithin context depth) false
      (plainMembers visit.node.children) visit.place) s = (.error fault, t)) :
    Call.run context ⟨depth + 1, visit, s⟩ = (.error fault, t) := by
  -- One case for each kind of node.
  cases shape : visit.node with
  | scalar value span =>
    -- A scalar has no children that could fail.
    rw [shape] at failed
    cases failed
  | sequence items span =>
    -- Items are walked like members.
    rw [shape, Node.children] at failed
    simp only [Call.run, shape, Node.toJson, walkWithin, walk, runFrom_bind,
      runFrom_walkItems _ _ _ items 0, failed]
  | mapping entries span =>
    rw [shape] at plain failed
    simp only [Call.run, shape, walkWithin]
    rw [walk_plain plain, runFrom_bind_error failed]

/-- A reference fails with the members beside it. -/
theorem run_siblings_error {raw : String} {answer : Answer} {s₁ : BundleState}
    (refers : visit.node.reference? = some raw)
    (answered : Answered context depth visit raw s answer s₁)
    (failed : runFrom (walkMembers context (walkWithin context depth) true
      (plainMembers visit.node.children) visit.place) s₁ = (.error fault, t)) :
    Call.run context ⟨depth + 1, visit, s⟩ = (.error fault, t) := by
  -- Only mappings refer.
  obtain ⟨entries, span, shape⟩ := Node.mapping_of_reference? refers
  rw [shape] at refers failed
  simp only [Call.run, shape, walkWithin]
  rw [walk_reference refers, visitReference, runFrom_bind_ok answered.run,
    runFrom_bind_error failed]

/-- A reference that is answered by a fault fails. -/
theorem run_reference_error {raw : String} (refers : visit.node.reference? = some raw)
    (failed : runFrom (answerReference context (walkWithin context depth) raw visit.place) s =
      (.error fault, t)) :
    Call.run context ⟨depth + 1, visit, s⟩ = (.error fault, t) := by
  -- A node that is a reference is a mapping, and there the answer is asked for first.
  obtain ⟨entries, span, shape⟩ := Node.mapping_of_reference? refers
  rw [shape] at refers
  simp only [Call.run, shape, walkWithin]
  rw [walk_reference refers, visitReference, runFrom_bind_error failed]

/-- A call fails by the fault of a call that it makes. -/
theorem Calls.error {call next : Call} (calls : Calls context call next)
    (failed : next.run context = (.error fault, t)) : call.run context = (.error fault, t) := by
  -- A call makes another one for a child, beside a reference, or for what a reference leads to.
  cases calls with
  | child plain split earlier =>
    exact run_children_error plain (walkMembers_error split earlier (by simp) failed)
  | sibling refers answered split other earlier =>
    exact run_siblings_error refers answered
      (walkMembers_error split earlier (fun _ => other) failed)
  | moved refers leaves new chosen free =>
    -- Between reserving and filling in, the walk of the content fails.
    refine run_reference_error refers ?_
    rw [leaves.runFrom_answerReference, new]
    simp only [chosen]
    refine runFrom_bind_error ?_
    rw [runFrom_relocate free]
    simp only [Call.run, Visit.place] at failed
    rw [failed]
  | replaced refers leaves new homeless fresh =>
    refine run_reference_error refers ?_
    rw [leaves.runFrom_answerReference, new]
    simp only [homeless]
    exact runFrom_bind_error ((runFrom_inlined fresh).trans failed)

/-- A call that raises a fault fails by it. -/
theorem Raises.error {call : Call} (raises : Raises context call fault t) :
    call.run context = (.error fault, t) := by
  cases raises with
  -- Each fault is raised by the check of its own, behind those that passed.
  | exhausted => rfl
  | remote refers far =>
    refine run_reference_error refers ?_
    unfold answerReference
    simp only [far, if_true, runFrom_throw]
    rfl
  | unread refers near failed =>
    refine run_reference_error refers ?_
    unfold answerReference
    simp only [if_neg near]
    exact runFrom_bind_error failed
  | missing refers near loaded absent =>
    refine run_reference_error refers ?_
    unfold answerReference
    simp only [if_neg near]
    refine (runFrom_bind_ok loaded).trans ?_
    simp only [absent]
    rfl
  | unsupported refers reads foreign unknown =>
    refine run_reference_error refers ?_
    unfold answerReference
    simp only [if_neg reads.near]
    refine (runFrom_bind_ok reads.loaded).trans ?_
    simp only [reads.found, if_neg foreign, unknown]
    rfl
  | collision refers leaves new chosen taken =>
    refine run_reference_error refers ?_
    rw [leaves.runFrom_answerReference, new]
    simp only [chosen]
    exact runFrom_bind_error (runFrom_bind_error (runFrom_reserve_taken taken))
  | circular refers leaves new homeless again =>
    refine run_reference_error refers ?_
    rw [leaves.runFrom_answerReference, new]
    simp only [homeless]
    refine runFrom_bind_error ?_
    rw [inlined]
    exact congrArg (fun step => runFrom step _) (if_pos again)

/-- A call that comes to one that raises a fault answers that fault. -/
theorem Fails.error {call : Call} (fails : Fails context call fault t) :
    call.run context = (.error fault, t) := by
  obtain ⟨last, reached, raises⟩ := fails
  -- By induction from the call that raises the fault back to the first one.
  induction reached using ReflTransGen.head_induction_on with
  | refl => exact raises.error
  | head calls _ ih => exact calls.error ih

end SpecTrace
