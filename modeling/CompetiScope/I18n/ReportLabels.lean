import CompetiScope.Foundation.Text

/-!
# Report labels

The headings of the report sections in the two output languages.
-/

namespace CompetiScope

inductive OutputLanguage where
  | chinese
  | english
  deriving DecidableEq

/-- `normalize_output_language`. -/
def normalizeOutputLanguage (language : String) : OutputLanguage :=
  if language = "en-US" then .english else .chinese

/-- `REPORT_LABELS`: key, Chinese label, English label. -/
def reportLabels : List (String × String × String) :=
  [("executive_summary", "执行摘要", "Executive Summary"),
    ("executive_takeaway", "执行摘要", "Executive Takeaway"),
    ("decision_summary", "决策摘要", "Decision Summary"),
    ("competitive_findings", "竞争发现", "Competitive Findings"),
    ("review_theme_summary", "用户评价整理", "User Review Themes"),
    ("competitor_deep_dives", "竞品深挖", "Competitor Deep Dives"),
    ("swot_analysis", "SWOT 分析", "SWOT Analysis"),
    ("evidence_support", "证据与 QA 支撑", "Evidence & QA Support"),
    ("executive_overview", "执行概览", "Executive Overview"),
    ("source_quality", "来源质量与覆盖", "Source Quality & Coverage"),
    ("side_by_side_matrix", "横向决策矩阵", "Side-by-Side Decision Matrix"),
    ("scenario_checklist", "场景 QA 清单", "Scenario QA Checklist"),
    ("battlecard", "战报", "Battlecard"),
    ("dimension_winners", "维度结论", "Dimension Winners"),
    ("comparison_matrix", "对比矩阵", "Comparison Matrix"),
    ("knowledge_coverage", "知识覆盖", "Knowledge Coverage"),
    ("confidence_notes", "置信度说明", "Confidence Notes"),
    ("claim_risk", "声明校验与证据风险", "Claim Validation & Evidence Risk"),
    ("next_collection", "下一步采集与验证计划", "Next Collection / Verification Plan"),
    ("evidence_appendix", "证据附录", "Evidence Appendix"),
    ("generation_notes", "生成说明", "Generation Notes"),
    ("memory_context", "记忆上下文", "Memory Context"),
    ("user_research_evidence", "用户研究证据", "User Research Evidence"),
    ("community_evidence_triangulation", "社区证据三角验证",
      "Community Evidence Triangulation"),
    ("rag_gap_fill", "RAG 缺口补全", "RAG Gap Fill"),
    ("workflow_enterprise_risk", "工作流与企业风险", "Workflow & Enterprise Risk"),
    ("business_implications", "业务影响", "Business Implications"),
    ("market_landscape", "市场格局", "Market Landscape")]

/-- `report_label`; `none` stands for its `KeyError`. -/
def reportLabel (language key : String) : Option String :=
  (reportLabels.find? fun entry => entry.1 = key).map fun entry =>
    match normalizeOutputLanguage language with
    | .chinese => entry.2.1
    | .english => entry.2.2

end CompetiScope
