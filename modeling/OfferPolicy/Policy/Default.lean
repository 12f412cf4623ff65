import OfferPolicy.Policy.Rules

namespace OfferPolicy

def defaultPolicyLines : List String := [
  "ROLE:",
  "Retention Manager AI",
  "",
  "CONTEXT:",
  "Customer Data: segment, churn_score, monthly_charges, tenure, contract",
  "",
  "INSTRUCTION:",
  "Define your logic using IF/ELSE rules. The system executes them in order.",
  "",
  "[RULES]",
  "// 1. Data hygiene",
  "IF churn_score == null THEN RETURN \"NO_OFFER\"",
  "",
  "// 2. Savings: ignore low risk",
  "IF churn_score < 0.7 THEN RETURN \"NO_OFFER\"",
  "",
  "// 3. Targeted retention: VIP on a short leash (highest risk)",
  "IF segment == \"VIP\" AND contract == \"Month-to-month\" THEN RETURN \"BIG\"",
  "",
  "// 4. Loyalty effect: a two-year contract locks the customer in, give the minimum",
  "IF contract == \"Two year\" THEN RETURN \"SMALL\"",
  "",
  "// 5. Middle class: optimal retention for STANDARD",
  "IF segment == \"STANDARD\" THEN RETURN \"MEDIUM\"",
  "",
  "// 6. Insurance: keep coverage above 90% for everyone else at risk",
  "IF churn_score >= 0.7 THEN RETURN \"SMALL\"",
  "",
  "// 7. Fallback",
  "RETURN \"NO_OFFER\"",
  "",
  "[MERMAID]",
  "flowchart TD",
  "  Start --> Risk\x7bRisk >= 0.7?\x7d",
  "  Risk -- No --> Z([NO_OFFER])",
  "  Risk -- Yes --> VIP_M2M\x7bVIP & M2M?\x7d",
  "  VIP_M2M -- Yes --> B([BIG])",
  "  VIP_M2M -- No --> LongTerm\x7b2-Year Contract?\x7d",
  "  LongTerm -- Yes --> S([SMALL])",
  "  LongTerm -- No --> Std\x7bStandard?\x7d",
  "  Std -- Yes --> M([MEDIUM])",
  "  Std -- No --> S2([SMALL])",
  ""]

def defaultPolicy : String :=
  "\n".intercalate defaultPolicyLines

def defaultRules : Rules :=
  .ofText defaultPolicy

end OfferPolicy
