/-!
# Packed transitions on nonterminals, tables 0 to 511

One number a table; `CallContext.Gotos.ofCode` says how to read it.
-/

namespace CallContext.Automaton

/-- Tables 0 to 63. -/
def gotos00 : List Nat := [
  0x0,
  0x1c15fc07cee414759e3b99051cad18e44147020a379051ba828dc4146da0a365051b0828d74146b20a3349ad964d6ca9d764b42b1e75d8d3aec568c61b4630905182828c068c5fb462f8f7d7ae08bc68c5d1352e19c96ace4b467159b82a800f93e07c9b8d04d468266341311a09703e4901f23c0f91607c8a03e4481f2180f9071a0828d040c68202340ff1a07e8d03ed1f9f1a30f71a07a8d03cc681de340e71a0728d03781f1b80f8db47c6c,
  0x1cc9fc080ee414759e3b99051cad18e44147020a379051ba828dc4146da0a365051b0828d74146b20a3349ad964d6ca9d764b42b1e75d8d3aec568c61b4630905182828c068c5fb462f8f7d7ae08bc68c5d1352e19c96ace4b467159b87a85cc9400809f0404dcb5a6a5ad332d69896b4b8202481011e0808b040450202241010c0808396b414b5a065ad012d67f96b3f4b59f68fcf8d187b96b3d4b59e65acef2d67396b394b59bc100dc0806d,
  0x1cc9fc084ee414759e3b99051cad18e44147020a379051ba828dc4146da0a365051b0828d74146b20a3349ad964d6ca9d764b42b1e75d8d3aec568c61b4630905182828c068c5fb462f8f7d7ae08bc68c5d1352e19c96ace4b46715992ea85cc9400849f0424dcb5a6a5ad332d69896b4b8212481091e0848b042450212241090c0848396b414b5a065ad012d67f96b3f4b59f68fcf8d187b96b3d4b59e65acef2d67396b394b59bc108dc0846d,
  0x1cc9fc084ee414759e3b99051cad18e44147020a379051ba828dc4146da0a365051b0828d74146b20a3349ad964d6ca9d764b42b1e75d8d3aec568c61b4630905182828c068c5fb462f8f7d7ae08bc68c5d1352e19c96ace4b46715995aa85cc9400849f0424dcb5a6a5ad332d69896b4b8212481091e0848b042450212241090c0848396b414b5a065ad012d67f96b3f4b59f68fcf8d187b96b3d4b59e65acef2d67396b394b59bc108dc0846d,
  0x1cc9fc084ee414759e3b99051cad18e44147020a379051ba828dc4146da0a365051b0828d74146b20a3349ad964d6ca9d764b42b1e75d8d3aec568c61b4630905182828c068c5fb462f8f7d7ae08bc68c5d1352e19c96ace4b467159971a85cc9400849f0424dcb5a6a5ad332d69896b4b8212481091e0848b042450212241090c0848396b414b5a065ad012d67f96b3f4b59f68fcf8d187b96b3d4b59e65acef2d67396b394b59bc108dc0846d,
  0x1cc9fc084ee414759e3b99051cad18e44147020a379051ba828dc4146da0a365051b0828d74146b20a3349ad964d6ca9d764b42b1e75d8d3aec568c61b4630905182828c068c5fb462f8f7d7ae08bc68c5d1352e19c96ace4b467159972a85cc9400849f0424dcb5a6a5ad332d69896b4b8212481091e0848b042450212241090c0848396b414b5a065ad012d67f96b3f4b59f68fcf8d187b96b3d4b59e65acef2d67396b394b59bc108dc0846d,
  0x1cc9fc084ee414759e3b99051cad18e44147020a379051ba828dc4146da0a365051b0828d74146b20a3349ad964d6ca9d764b42b1e75d8d3aec568c61b4630905182828c068c5fb462f8f7d7ae08bc68c5d1352e19c96ace4b467159976285cc9400849f0424dcb5a6a5ad332d69896b4b8212481091e0848b042450212241090c0848396b414b5a065ad012d67f96b3f4b59f68fcf8d187b96b3d4b59e65acef2d67396b394b59bc108dc0846d,
  0x1cc9fc084ee414759e3b99051cad18e44147020a379051ba828dc4146da0a365051b0828d74146b20a3349ad964d6ca9d764b42b1e75d8d3aec568c61b4630905182828c068c5fb462f8f7d7ae08bc68c5d1352e19c96ace4b467159979285cc9400849f0424dcb5a6a5ad332d69896b4b8212481091e0848b042450212241090c0848396b414b5a065ad012d67f96b3f4b59f68fcf8d187b96b3d4b59e65acef2d67396b394b59bc108dc0846d,
  0x1cc9fc084ee414759e3b99051cad18e44147020a379051ba828dc4146da0a365051b0828d74146b20a3349ad964d6ca9d764b42b1e75d8d3aec568c61b4630905182828c068c5fb462f8f7d7ae08bc68c5d1352e19c96ace4b46715997a285cc9400849f0424dcb5a6a5ad332d69896b4b8212481091e0848b042450212241090c0848396b414b5a065ad012d67f96b3f4b59f68fcf8d187b96b3d4b59e65acef2d67396b394b59bc108dc0846d,
  0x1cc9fc084ee414759e3b99051cad18e44147020a379051ba828dc4146da0a365051b0828d74146b20a3349ad964d6ca9d764b42b1e75d8d3aec568c61b4630905182828c068c5fb462f8f7d7ae08bc68c5d1352e19c96ace4b46715997b285cc9400849f0424dcb5a6a5ad332d69896b4b8212481091e0848b042450212241090c0848396b414b5a065ad012d67f96b3f4b59f68fcf8d187b96b3d4b59e65acef2d67396b394b59bc108dc0846d,
  0x1cc9fc084ee414759e3b99051cad18e44147020a379051ba828dc4146da0a365051b0828d74146b20a3349ad964d6ca9d764b42b1e75d8d3aec568c61b4630905182828c068c5fb462f8f7d7ae08bc68c5d1352e19c96ace4b46715997c285cc9400849f0424dcb5a6a5ad332d69896b4b8212481091e0848b042450212241090c0848396b414b5a065ad012d67f96b3f4b59f68fcf8d187b96b3d4b59e65acef2d67396b394b59bc108dc0846d,
  0x1cc9fc084ee414759e3b99051cad18e44147020a379051ba828dc4146da0a365051b0828d74146b20a3349ad964d6ca9d764b42b1e75d8d3aec568c61b4630905182828c068c5fb462f8f7d7ae08bc68c5d1352e19c96ace4b46715995d285cc9400849f0424dcb5a6a5ad332d69896b4b8212481091e0848b042450212241090c0848396b414b5a065ad012d67f96b3f4b59f68fcf8d187b96b3d4b59e65acef2d67396b394b59bc108dc0846d,
  0x1cc9fc086ee414759e3b99051cad18e44147020a379051ba828dc4146da0a365051b0828d74146b20a3349ad964d6ca9d764b42b1e75d8d3aec568c61b4630905182828c068c5fb462f8f7d7ae08bc68c5d1352e19c96ace4b467159941a85cc9400869f0434dcb5a6a5ad332d69896b4b821a4810d1e0868b04345021a2410d0c0868396b414b5a065ad012d67f96b3f4b59f68fcf8d187b96b3d4b59e65acef2d67396b394b59bc10cdc0866d,
  0x1cc9fc084ee414759e3b99051cad18e44147020a379051ba828dc4146da0a365051b0828d74146b20a3349ad964d6ca9d764b42b1e75d8d3aec568c61b4630905182828c068c5fb462f8f7d7ae08bc68c5d1352e19c96ace4b46715997da85cc9400849f0424dcb5a6a5ad332d69896b4b8212481091e0848b042450212241090c0848396b414b5a065ad012d67f96b3f4b59f68fcf8d187b96b3d4b59e65acef2d67396b394b59bc108dc0846d,
  0x1cc9fc084ee414759e3b99051cad18e44147020a379051ba828dc4146da0a365051b0828d74146b20a3349ad964d6ca9d764b42b1e75d8d3aec568c61b4630905182828c068c5fb462f8f7d7ae08bc68c5d1352e19c96ace4b46715997f285cc9400849f0424dcb5a6a5ad332d69896b4b8212481091e0848b042450212241090c0848396b414b5a065ad012d67f96b3f4b59f68fcf8d187b96b3d4b59e65acef2d67396b394b59bc108dc0846d,
  0x1cc9fc084ee414759e3b99051cad18e44147020a379051ba828dc4146da0a365051b0828d74146b20a3349ad964d6ca9d764b42b1e75d8d3aec568c61b4630905182828c068c5fb462f8f7d7ae08bc68c5d1352e19c96ace4b46715997fa85cc9400849f0424dcb5a6a5ad332d69896b4b8212481091e0848b042450212241090c0848396b414b5a065ad012d67f96b3f4b59f68fcf8d187b96b3d4b59e65acef2d67396b394b59bc108dc0846d,
  0x1cc9fc084ee414759e3b99051cad18e44147020a379051ba828dc4146da0a365051b0828d74146b20a3349ad964d6ca9d764b42b1e75d8d3aec568c61b4630905182828c068c5fb462f8f7d7ae08bc68c5d1352e19c96ace4b467159965a85cc9400849f0424dcb5a6a5ad332d69896b4b8212481091e0848b042450212241090c0848396b414b5a065ad012d67f96b3f4b59f68fcf8d187b96b3d4b59e65acef2d67396b394b59bc108dc0846d,
  0x1cc9fc084ee414759e3b99051cad18e44147020a379051ba828dc4146da0a365051b0828d74146b20a3349ad964d6ca9d764b42b1e75d8d3aec568c61b4630905182828c068c5fb462f8f7d7ae08bc68c5d1352e19c96ace4b46715995e285cc9400849f0424dcb5a6a5ad332d69896b4b8212481091e0848b042450212241090c0848396b414b5a065ad012d67f96b3f4b59f68fcf8d187b96b3d4b59e65acef2d67396b394b59bc108dc0846d,
  0x1cc9fc084ee414759e3b99051cad18e44147020a379051ba828dc4146da0a365051b0828d74146b20a3349ad964d6ca9d764b42b1e75d8d3aec568c61b4630905182828c068c5fb462f8f7d7ae08bc68c5d1352e19c96ace4b467159981285cc9400849f0424dcb5a6a5ad332d69896b4b8212481091e0848b042450212241090c0848396b414b5a065ad012d67f96b3f4b59f68fcf8d187b96b3d4b59e65acef2d67396b394b59bc108dc0846d,
  0x1cc9fc086ee414759e3b99051cad18e44147020a379051ba828dc4146da0a365051b0828d74146b20a3349ad964d6ca9d764b42b1e75d8d3aec568c61b4630905182828c068c5fb462f8f7d7ae08bc68c5d1352e19c96ace4b467159943285cc9400869f0434dcb5a6a5ad332d69896b4b821a4810d1e0868b04345021a2410d0c0868396b414b5a065ad012d67f96b3f4b59f68fcf8d187b96b3d4b59e65acef2d67396b394b59bc10cdc0866d,
  0x1cc9fc088ee414759e3b99051cad18e44147020a379051ba828dc4146da0a365051b0828d74146b20a3349ad964d6ca9d764b42b1e75d8d3aec568c61b4630905182828c068c5fb462f8f7d7ae08bc68c5d1352e19c96ace4b467159943a85cc9400889f0444dcb5a6a5ad332d69896b4b8222481111e0888b044450222241110c0888396b414b5a065ad012d67f96b3f4b59f68fcf8d187b96b3d4b59e65acef2d67396b394b59bc110dc0886d,
  0x1cc9fc084ee414759e3b99051cad18e44147020a379051ba828dc4146da0a365051b0828d74146b20a3349ad964d6ca9d764b42b1e75d8d3aec568c61b4630905182828c068c5fb462f8f7d7ae08bc68c5d1352e19c96ace4b467159982285cc9400849f0424dcb5a6a5ad332d69896b4b8212481091e0848b042450212241090c0848396b414b5a065ad012d67f96b3f4b59f68fcf8d187b96b3d4b59e65acef2d67396b394b59bc108dc0846d,
  0x1cc9fc084ee414759e3b99051cad18e44147020a379051ba828dc4146da0a365051b0828d74146b20a3349ad964d6ca9d764b42b1e75d8d3aec568c61b4630905182828c068c5fb462f8f7d7ae08bc68c5d1352e19c96ace4b46715995ea85cc9400849f0424dcb5a6a5ad332d69896b4b8212481091e0848b042450212241090c0848396b414b5a065ad012d67f96b3f4b59f68fcf8d187b96b3d4b59e65acef2d67396b394b59bc108dc0846d,
  0x1cc9fc08cee414759e3b99051cad18e44147020a379051ba828dc4146da0a365051b0828d74146b20a3349ad964d6ca9d764b42b1e75d8d3aec568c61b4630905182828c068c5fb462f8f7d7ae08bc68c5d1352e19c96ace4b467159d01a85cc94008c9f0464dcb5a6a5ad332d69896b4b8232481191e08c8b046450232241190c08c8396b414b5a065ad012d67f96b3f4b59f68fcf8d187b96b3d4b59e65acef2d67396b394b59bc118dc08c6d,
  0x1cc9fc084ee414759e3b99051cad18e44147020a379051ba828dc4146da0a365051b0828d74146b20a3349ad964d6ca9d764b42b1e75d8d3aec568c61b4630905182828c068c5fb462f8f7d7ae08bc68c5d1352e19c96ace4b467159983a85cc9400849f0424dcb5a6a5ad332d69896b4b8212481091e0848b042450212241090c0848396b414b5a065ad012d67f96b3f4b59f68fcf8d187b96b3d4b59e65acef2d67396b394b59bc108dc0846d,
  0x1cc9fc084ee414759e3b99051cad18e44147020a379051ba828dc4146da0a365051b0828d74146b20a3349ad964d6ca9d764b42b1e75d8d3aec568c61b4630905182828c068c5fb462f8f7d7ae08bc68c5d1352e19c96ace4b467159984a85cc9400849f0424dcb5a6a5ad332d69896b4b8212481091e0848b042450212241090c0848396b414b5a065ad012d67f96b3f4b59f68fcf8d187b96b3d4b59e65acef2d67396b394b59bc108dc0846d,
  0x1cc9fc08cee414759e3b99051cad18e44147020a379051ba828dc4146da0a365051b0828d74146b20a3349ad964d6ca9d764b42b1e75d8d3aec568c61b4630905182828c068c5fb462f8f7d7ae08bc68c5d1352e19c96ace4b467159d02a85cc94008c9f0464dcb5a6a5ad332d69896b4b8232481191e08c8b046450232241190c08c8396b414b5a065ad012d67f96b3f4b59f68fcf8d187b96b3d4b59e65acef2d67396b394b59bc118dc08c6d,
  0x1cc9fc08cee414759e3b99051cad18e44147020a379051ba828dc4146da0a365051b0828d74146b20a3349ad964d6ca9d764b42b1e75d8d3aec568c61b4630905182828c068c5fb462f8f7d7ae08bc68c5d1352e19c96ace4b467159d03a85cc94008c9f0464dcb5a6a5ad332d69896b4b8232481191e08c8b046450232241190c08c8396b414b5a065ad012d67f96b3f4b59f68fcf8d187b96b3d4b59e65acef2d67396b394b59bc118dc08c6d,
  0x1cc9fc084ee414759e3b99051cad18e44147020a379051ba828dc4146da0a365051b0828d74146b20a3349ad964d6ca9d764b42b1e75d8d3aec568c61b4630905182828c068c5fb462f8f7d7ae08bc68c5d1352e19c96ace4b467159985285cc9400849f0424dcb5a6a5ad332d69896b4b8212481091e0848b042450212241090c0848396b414b5a065ad012d67f96b3f4b59f68fcf8d187b96b3d4b59e65acef2d67396b394b59bc108dc0846d,
  0x1cc9fc086ee414759e3b99051cad18e44147020a379051ba828dc4146da0a365051b0828d74146b20a3349ad964d6ca9d764b42b1e75d8d3aec568c61b4630905182828c068c5fb462f8f7d7ae08bc68c5d1352e19c96ace4b467159945285cc9400869f0434dcb5a6a5ad332d69896b4b821a4810d1e0868b04345021a2410d0c0868396b414b5a065ad012d67f96b3f4b59f68fcf8d187b96b3d4b59e65acef2d67396b394b59bc10cdc0866d,
  0x1cc9fc088ee414759e3b99051cad18e44147020a379051ba828dc4146da0a365051b0828d74146b20a3349ad964d6ca9d764b42b1e75d8d3aec568c61b4630905182828c068c5fb462f8f7d7ae08bc68c5d1352e19c96ace4b467159945a85cc9400889f0444dcb5a6a5ad332d69896b4b8222481111e0888b044450222241110c0888396b414b5a065ad012d67f96b3f4b59f68fcf8d187b96b3d4b59e65acef2d67396b394b59bc110dc0886d,
  0x1cc9fc08cee414759e3b99051cad18e44147020a379051ba828dc4146da0a365051b0828d74146b20a3349ad964d6ca9d764b42b1e75d8d3aec568c61b4630905182828c068c5fb462f8f7d7ae08bc68c5d1352e19c96ace4b467159d04a85cc94008c9f0464dcb5a6a5ad332d69896b4b8232481191e08c8b046450232241190c08c8396b414b5a065ad012d67f96b3f4b59f68fcf8d187b96b3d4b59e65acef2d67396b394b59bc118dc08c6d,
  0x1cc9fc08cee414759e3b99051cad18e44147020a379051ba828dc4146da0a365051b0828d74146b20a3349ad964d6ca9d764b42b1e75d8d3aec568c61b4630905182828c068c5fb462f8f7d7ae08bc68c5d1352e19c96ace4b467159d05285cc94008c9f0464dcb5a6a5ad332d69896b4b8232481191e08c8b046450232241190c08c8396b414b5a065ad012d67f96b3f4b59f68fcf8d187b96b3d4b59e65acef2d67396b394b59bc118dc08c6d,
  0x1cc9fc08cee414759e3b99051cad18e44147020a379051ba828dc4146da0a365051b0828d74146b20a3349ad964d6ca9d764b42b1e75d8d3aec568c61b4630905182828c068c5fb462f8f7d7ae08bc68c5d1352e19c96ace4b467159d06285cc94008c9f0464dcb5a6a5ad332d69896b4b8232481191e08c8b046450232241190c08c8396b414b5a065ad012d67f96b3f4b59f68fcf8d187b96b3d4b59e65acef2d67396b394b59bc118dc08c6d,
  0x1cc9fc08aee414759e3b99051cad18e44147020a379051ba828dc4146da0a365051b0828d74146b20a3349ad964d6ca9d764b42b1e75d8d3aec568c61b4630905182828c068c5fb462f8f7d7ae08bc68c5d1352e19c96ace4b467159931a85cc94008a9f0454dcb5a6a5ad332d69896b4b822a481151e08a8b04545022a241150c08a8396b414b5a065ad012d67f96b3f4b59f68fcf8d187b96b3d4b59e65acef2d67396b394b59bc114dc08a6d,
  0x1cc9fc08aee414759e3b99051cad18e44147020a379051ba828dc4146da0a365051b0828d74146b20a3349ad964d6ca9d764b42b1e75d8d3aec568c61b4630905182828c068c5fb462f8f7d7ae08bc68c5d1352e19c96ace4b467159960285cc94008a9f0454dcb5a6a5ad332d69896b4b822a481151e08a8b04545022a241150c08a8396b414b5a065ad012d67f96b3f4b59f68fcf8d187b96b3d4b59e65acef2d67396b394b59bc114dc08a6d,
  0x1cc9fc08aee414759e3b99051cad18e44147020a379051ba828dc4146da0a365051b0828d74146b20a3349ad964d6ca9d764b42b1e75d8d3aec568c61b4630905182828c068c5fb462f8f7d7ae08bc68c5d1352e19c96ace4b46715998ea85cc94008a9f0454dcb5a6a5ad332d69896b4b822a481151e08a8b04545022a241150c08a8396b414b5a065ad012d67f96b3f4b59f68fcf8d187b96b3d4b59e65acef2d67396b394b59bc114dc08a6d,
  0x1cc9fc08aee414759e3b99051cad18e44147020a379051ba828dc4146da0a365051b0828d74146b20a3349ad964d6ca9d764b42b1e75d8d3aec568c61b4630905182828c068c5fb462f8f7d7ae08bc68c5d1352e19c96ace4b46715998fa85cc94008a9f0454dcb5a6a5ad332d69896b4b822a481151e08a8b04545022a241150c08a8396b414b5a065ad012d67f96b3f4b59f68fcf8d187b96b3d4b59e65acef2d67396b394b59bc114dc08a6d,
  0x1cc9fc08aee414759e3b99051cad18e44147020a379051ba828dc4146da0a365051b0828d74146b20a3349ad964d6ca9d764b42b1e75d8d3aec568c61b4630905182828c068c5fb462f8f7d7ae08bc68c5d1352e19c96ace4b467159993285cc94008a9f0454dcb5a6a5ad332d69896b4b822a481151e08a8b04545022a241150c08a8396b414b5a065ad012d67f96b3f4b59f68fcf8d187b96b3d4b59e65acef2d67396b394b59bc114dc08a6d,
  0x1cc9fc08aee414759e3b99051cad18e44147020a379051ba828dc4146da0a365051b0828d74146b20a3349ad964d6ca9d764b42b1e75d8d3aec568c61b4630905182828c068c5fb462f8f7d7ae08bc68c5d1352e19c96ace4b467159996285cc94008a9f0454dcb5a6a5ad332d69896b4b822a481151e08a8b04545022a241150c08a8396b414b5a065ad012d67f96b3f4b59f68fcf8d187b96b3d4b59e65acef2d67396b394b59bc114dc08a6d,
  0x1cc9fc08aee414759e3b99051cad18e44147020a379051ba828dc4146da0a365051b0828d74146b20a3349ad964d6ca9d764b42b1e75d8d3aec568c61b4630905182828c068c5fb462f8f7d7ae08bc68c5d1352e19c96ace4b467159997285cc94008a9f0454dcb5a6a5ad332d69896b4b822a481151e08a8b04545022a241150c08a8396b414b5a065ad012d67f96b3f4b59f68fcf8d187b96b3d4b59e65acef2d67396b394b59bc114dc08a6d,
  0x1cc9fc08aee414759e3b99051cad18e44147020a379051ba828dc4146da0a365051b0828d74146b20a3349ad964d6ca9d764b42b1e75d8d3aec568c61b4630905182828c068c5fb462f8f7d7ae08bc68c5d1352e19c96ace4b467159998285cc94008a9f0454dcb5a6a5ad332d69896b4b822a481151e08a8b04545022a241150c08a8396b414b5a065ad012d67f96b3f4b59f68fcf8d187b96b3d4b59e65acef2d67396b394b59bc114dc08a6d,
  0x1cc9fc08aee414759e3b99051cad18e44147020a379051ba828dc4146da0a365051b0828d74146b20a3349ad964d6ca9d764b42b1e75d8d3aec568c61b4630905182828c068c5fb462f8f7d7ae08bc68c5d1352e19c96ace4b467159999285cc94008a9f0454dcb5a6a5ad332d69896b4b822a481151e08a8b04545022a241150c08a8396b414b5a065ad012d67f96b3f4b59f68fcf8d187b96b3d4b59e65acef2d67396b394b59bc114dc08a6d,
  0x1cc9fc08aee414759e3b99051cad18e44147020a379051ba828dc4146da0a365051b0828d74146b20a3349ad964d6ca9d764b42b1e75d8d3aec568c61b4630905182828c068c5fb462f8f7d7ae08bc68c5d1352e19c96ace4b467159962a85cc94008a9f0454dcb5a6a5ad332d69896b4b822a481151e08a8b04545022a241150c08a8396b414b5a065ad012d67f96b3f4b59f68fcf8d187b96b3d4b59e65acef2d67396b394b59bc114dc08a6d,
  0x1cc9fc08eee414759e3b99051cad18e44147020a379051ba828dc4146da0a365051b0828d74146b20a3349ad964d6ca9d764b42b1e75d8d3aec568c61b4630905182828c068c5fb462f8f7d7ae08bc68c5d1352e19c96ace4b467159947a85cc94008e9f0474dcb5a6a5ad332d69896b4b823a4811d1e08e8b04745023a2411d0c08e8396b414b5a065ad012d67f96b3f4b59f68fcf8d187b96b3d4b59e65acef2d67396b394b59bc11cdc08e6d,
  0x1cc9fc08aee414759e3b99051cad18e44147020a379051ba828dc4146da0a365051b0828d74146b20a3349ad964d6ca9d764b42b1e75d8d3aec568c61b4630905182828c068c5fb462f8f7d7ae08bc68c5d1352e19c96ace4b46715999aa85cc94008a9f0454dcb5a6a5ad332d69896b4b822a481151e08a8b04545022a241150c08a8396b414b5a065ad012d67f96b3f4b59f68fcf8d187b96b3d4b59e65acef2d67396b394b59bc114dc08a6d,
  0x1cc9fc08aee414759e3b99051cad18e44147020a379051ba828dc4146da0a365051b0828d74146b20a3349ad964d6ca9d764b42b1e75d8d3aec568c61b4630905182828c068c5fb462f8f7d7ae08bc68c5d1352e19c96ace4b46715999c285cc94008a9f0454dcb5a6a5ad332d69896b4b822a481151e08a8b04545022a241150c08a8396b414b5a065ad012d67f96b3f4b59f68fcf8d187b96b3d4b59e65acef2d67396b394b59bc114dc08a6d,
  0x1cc9fc08aee414759e3b99051cad18e44147020a379051ba828dc4146da0a365051b0828d74146b20a3349ad964d6ca9d764b42b1e75d8d3aec568c61b4630905182828c068c5fb462f8f7d7ae08bc68c5d1352e19c96ace4b46715999ca85cc94008a9f0454dcb5a6a5ad332d69896b4b822a481151e08a8b04545022a241150c08a8396b414b5a065ad012d67f96b3f4b59f68fcf8d187b96b3d4b59e65acef2d67396b394b59bc114dc08a6d,
  0x1cc9fc08aee414759e3b99051cad18e44147020a379051ba828dc4146da0a365051b0828d74146b20a3349ad964d6ca9d764b42b1e75d8d3aec568c61b4630905182828c068c5fb462f8f7d7ae08bc68c5d1352e19c96ace4b467159966a85cc94008a9f0454dcb5a6a5ad332d69896b4b822a481151e08a8b04545022a241150c08a8396b414b5a065ad012d67f96b3f4b59f68fcf8d187b96b3d4b59e65acef2d67396b394b59bc114dc08a6d,
  0x1cc9fc08aee414759e3b99051cad18e44147020a379051ba828dc4146da0a365051b0828d74146b20a3349ad964d6ca9d764b42b1e75d8d3aec568c61b4630905182828c068c5fb462f8f7d7ae08bc68c5d1352e19c96ace4b467159963a85cc94008a9f0454dcb5a6a5ad332d69896b4b822a481151e08a8b04545022a241150c08a8396b414b5a065ad012d67f96b3f4b59f68fcf8d187b96b3d4b59e65acef2d67396b394b59bc114dc08a6d,
  0x1cc9fc08aee414759e3b99051cad18e44147020a379051ba828dc4146da0a365051b0828d74146b20a3349ad964d6ca9d764b42b1e75d8d3aec568c61b4630905182828c068c5fb462f8f7d7ae08bc68c5d1352e19c96ace4b46715999e285cc94008a9f0454dcb5a6a5ad332d69896b4b822a481151e08a8b04545022a241150c08a8396b414b5a065ad012d67f96b3f4b59f68fcf8d187b96b3d4b59e65acef2d67396b394b59bc114dc08a6d,
  0x1cc9fc08eee414759e3b99051cad18e44147020a379051ba828dc4146da0a365051b0828d74146b20a3349ad964d6ca9d764b42b1e75d8d3aec568c61b4630905182828c068c5fb462f8f7d7ae08bc68c5d1352e19c96ace4b467159949285cc94008e9f0474dcb5a6a5ad332d69896b4b823a4811d1e08e8b04745023a2411d0c08e8396b414b5a065ad012d67f96b3f4b59f68fcf8d187b96b3d4b59e65acef2d67396b394b59bc11cdc08e6d,
  0x1cc9fc090ee414759e3b99051cad18e44147020a379051ba828dc4146da0a365051b0828d74146b20a3349ad964d6ca9d764b42b1e75d8d3aec568c61b4630905182828c068c5fb462f8f7d7ae08bc68c5d1352e19c96ace4b467159949a85cc9400909f0484dcb5a6a5ad332d69896b4b8242481211e0908b048450242241210c0908396b414b5a065ad012d67f96b3f4b59f68fcf8d187b96b3d4b59e65acef2d67396b394b59bc120dc0906d,
  0x1cc9fc08aee414759e3b99051cad18e44147020a379051ba828dc4146da0a365051b0828d74146b20a3349ad964d6ca9d764b42b1e75d8d3aec568c61b4630905182828c068c5fb462f8f7d7ae08bc68c5d1352e19c96ace4b46715999f285cc94008a9f0454dcb5a6a5ad332d69896b4b822a481151e08a8b04545022a241150c08a8396b414b5a065ad012d67f96b3f4b59f68fcf8d187b96b3d4b59e65acef2d67396b394b59bc114dc08a6d,
  0x1cc9fc08aee414759e3b99051cad18e44147020a379051ba828dc4146da0a365051b0828d74146b20a3349ad964d6ca9d764b42b1e75d8d3aec568c61b4630905182828c068c5fb462f8f7d7ae08bc68c5d1352e19c96ace4b467159964285cc94008a9f0454dcb5a6a5ad332d69896b4b822a481151e08a8b04545022a241150c08a8396b414b5a065ad012d67f96b3f4b59f68fcf8d187b96b3d4b59e65acef2d67396b394b59bc114dc08a6d,
  0x1cc9fc08aee414759e3b99051cad18e44147020a379051ba828dc4146da0a365051b0828d74146b20a3349ad964d6ca9d764b42b1e75d8d3aec568c61b4630905182828c068c5fb462f8f7d7ae08bc68c5d1352e19c96ace4b4671599a0a85cc94008a9f0454dcb5a6a5ad332d69896b4b822a481151e08a8b04545022a241150c08a8396b414b5a065ad012d67f96b3f4b59f68fcf8d187b96b3d4b59e65acef2d67396b394b59bc114dc08a6d,
  0x1cc9fc08aee414759e3b99051cad18e44147020a379051ba828dc4146da0a365051b0828d74146b20a3349ad964d6ca9d764b42b1e75d8d3aec568c61b4630905182828c068c5fb462f8f7d7ae08bc68c5d1352e19c96ace4b4671599a1a85cc94008a9f0454dcb5a6a5ad332d69896b4b822a481151e08a8b04545022a241150c08a8396b414b5a065ad012d67f96b3f4b59f68fcf8d187b96b3d4b59e65acef2d67396b394b59bc114dc08a6d,
  0x1cc9fc08aee414759e3b99051cad18e44147020a379051ba828dc4146da0a365051b0828d74146b20a3349ad964d6ca9d764b42b1e75d8d3aec568c61b4630905182828c068c5fb462f8f7d7ae08bc68c5d1352e19c96ace4b4671599a2285cc94008a9f0454dcb5a6a5ad332d69896b4b822a481151e08a8b04545022a241150c08a8396b414b5a065ad012d67f96b3f4b59f68fcf8d187b96b3d4b59e65acef2d67396b394b59bc114dc08a6d,
  0x1cc9fc08eee414759e3b99051cad18e44147020a379051ba828dc4146da0a365051b0828d74146b20a3349ad964d6ca9d764b42b1e75d8d3aec568c61b4630905182828c068c5fb462f8f7d7ae08bc68c5d1352e19c96ace4b46715994b285cc94008e9f0474dcb5a6a5ad332d69896b4b823a4811d1e08e8b04745023a2411d0c08e8396b414b5a065ad012d67f96b3f4b59f68fcf8d187b96b3d4b59e65acef2d67396b394b59bc11cdc08e6d,
  0x1cc9fc090ee414759e3b99051cad18e44147020a379051ba828dc4146da0a365051b0828d74146b20a3349ad964d6ca9d764b42b1e75d8d3aec568c61b4630905182828c068c5fb462f8f7d7ae08bc68c5d1352e19c96ace4b46715994ba85cc9400909f0484dcb5a6a5ad332d69896b4b8242481211e0908b048450242241210c0908396b414b5a065ad012d67f96b3f4b59f68fcf8d187b96b3d4b59e65acef2d67396b394b59bc120dc0906d,
  0x1cc9fc080ee414759e3b99051cad18e44147020a379051ba828dc4146da0a365051b0828d74146b20a3349ad964d6ca9d764b42b1e75d8d3aec568c61b4630905182828c068c5fb462f8f7d7ae08bc68c5d1352e19c96ace4b467159b9aa85cc9400809f0404dcb5a6a5ad332d69896b4b8202481011e0808b040450202241010c0808396b414b5a065ad012d67f96b3f4b59f68fcf8d187b96b3d4b59e65acef2d67396b394b59bc100dc0806d,
  0xe0afe03f7720a3acf1dcc828e568c7220a381051bc828dd4146e20a36d051b2828d84146ba0a3590519a4d6cb26b654ebb25a158f3aec69d762b4630da3184828c1414603462fda317c7bebd7045e3462e89a970ce4b56725a338acdc154007e9f03f4dc6826a341331a0988d04b81fa480fd1e07e8b03f4501fa240fd0c07e838d041468206341011a07f8d03f4681f68fcf8d187b8d03d4681e6340ef1a0738d0394681bc0fcdc07e6d,
  0xe64fe0417720a3acf1dcc828e568c7220a381051bc828dd4146e20a36d051b2828d84146ba0a3590519a4d6cb26b654ebb25a158f3aec69d762b4630da3184828c1414603462fda317c7bebd7045e3462e89a970ce4b56725a338acdcc9400829f0414dcb5a6a5ad332d69896b4b820a481051e0828b04145020a241050c0828396b414b5a065ad012d67f96b3f4b59f68fcf8d187b96b3d4b59e65acef2d67396b394b59bc104dc0826d]

/-- Tables 64 to 127. -/
def gotos01 : List Nat := [
  0x1491d67d4e652472b5e391491c0a48de5246ea92371491b6a48d95246c29235d491acfbad47dd69beeb49f75a2fbad085667a9233549196a48ca6bc61b5e30949182a48c06bc5fb5e2f8fa57adc2bc6bc5d27fae2a34f8d787b,
  0x1051d678ee641472b46391051c0828de4146ea0a371051b6828d94146c20a35d051acfbad47dd69beeb49f75a2fbad07ed67a0a3349f1964f8ca9d764b42b1e75d8d3aec568c61b4630905182828c068c5fb462f8f7d7ad42bc68c5d13dae19c96ace4b467159c6826a341331a0988d04bc6820a341031a0808d03fc681fa340fb47e7c68c3dc681ea340f31a0778d039c681ca340de5fa6e,
  0x1051d678ee641472b46391051c0828de4146ea0a371051b6828d94146c20a35d051acfbad47dd69beeb49f75a2fbad07ed67a0a3349f1964f8ca9d764b42b1e75d8d3aec568c61b4630905182828c068c5fb462f8f7d7ad42bc68c5d13dae19c96ace4b467159c6826a341331a0988d04bc6820a341031a0808d03fc681fa340fb47e7c68c3dc681ea340f31a0778d039c681ca340de6026e,
  0x1051d678ee641472b46391051c0828de4146ea0a371051b6828d94146c20a35d051acfbad47dd69beeb49f75a2fbad07ed67a0a3349f1964f8ca9d764b42b1e75d8d3aec568c61b4630905182828c068c5fb462f8f7d7ad42bc68c5d13dae19c96ace4b467159c6826a341331a0988d04bc6820a341031a0808d03fc681fa340fb47e7c68c3dc681ea340f31a0778d039c681ca340de60a6e,
  0x1051d678ee641472b46391051c0828de4146ea0a371051b6828d94146c20a35d051acfbad47dd69beeb49f75a2fbad07ed67a0a3349f1964f8ca9d764b42b1e75d8d3aec568c61b4630905182828c068c5fb462f8f7d7ad42bc68c5d13dae19c96ace4b467159c6826a341331a0988d04bc6820a341031a0808d03fc681fa340fb47e7c68c3dc681ea340f31a0778d039c681ca340de6106e,
  0x1051d678ee641472b46391051c0828de4146ea0a371051b6828d94146c20a35d051acfbad47dd69beeb49f75a2fbad07ed67a0a3349f1964f8ca9d764b42b1e75d8d3aec568c61b4630905182828c068c5fb462f8f7d7ad42bc68c5d13dae19c96ace4b467159cb5a6a5ad332d69896b4bcb5a0a5ad032d68096b3fcb59fa5acfb47e7c68c3dcb59ea5acf32d67796b39cb59ca5acde66e6e,
  0x1051d678ee641472b46391051c0828de4146ea0a371051b6828d94146c20a35d051acfbad47dd69beeb49f75a2fbad07ed67a0a3349f1964f8ca9d764b42b1e75d8d3aec568c61b4630905182828c068c5fb462f8f7d7ad42bc68c5d13dae19c96ace4b467159cb5a6a5ad332d69896b4bcb5a0a5ad032d68096b3fcb59fa5acfb47e7c68c3dcb59ea5acf32d67796b39cb59ca5acde6766e,
  0x1051d678ee641472b46391051c0828de4146ea0a371051b6828d94146c20a35d051acfbad47dd69beeb49f75a2fbad07ed67a0a3349f1964f8ca9d764b42b1e75d8d3aec568c61b4630905182828c068c5fb462f8f7d7ad42bc68c5d13dae19c96ace4b467159cb5a6a5ad332d69896b4bcb5a0a5ad032d68096b3fcb59fa5acfb47e7c68c3dcb59ea5acf32d67796b39cb59ca5acde67e6e,
  0x1051d678ee641472b46391051c0828de4146ea0a371051b6828d94146c20a35d051acfbad47dd69beeb49f75a2fbad07ed67a0a3349f1964f8ca9d764b42b1e75d8d3aec568c61b4630905182828c068c5fb462f8f7d7ad42bc68c5d13dae19c96ace4b467159cb5a6a5ad332d69896b4bcb5a0a5ad032d68096b3fcb59fa5acfb47e7c68c3dcb59ea5acf32d67796b39cb59ca5acde6846e,
  0x828eb3c77320a395a31c8828e04146f20a375051b8828db4146ca0a361051ae828d641466a0a32d05194d18c368c6120a30505180d18bf68c5f1e52f5c1978d18ba42e5c51f9f1a30f70a478,
  0x524759f5399491cad78e452470292379491baa48dc5246da92365491b0a48d75246b29233549196a48ca6bc61b5e30949182a48c06bc5fb5e2f8fa57ae80bc6bc5d27fae2a34f8d787b,
  0x524759f5399491cad78e452470292379491baa48dc5246da92365491b0a48d75246b29233549196a48ca6bc61b5e30949182a48c06bc5fb5e2f8fa57aedebc6bc5d27fae2a34f8d787b,
  0x414759e3b99051cad18e44147020a379051ba828dc4146da0a365051b0828d74146b20a3349ad964d6ca9d764b42b1e75d8d3aec568c61b4630905182828c068c5fb462f8f7d7ae08bc68c5d1352e19c96ace4b467159ca7a6a53d3329e9894f4bca7a0a53d0329e8094f3fca79fa53cfb47e7c68c3dca79ea53cf329e7794f39ca79ca53cdee166e,
  0x414759e3b99051cad18e44147020a379051ba828dc4146da0a365051b0828d74146b20a3349ad964d6ca9d764b42b1e75d8d3aec568c61b4630905182828c068c5fb462f8f7d7ae08bc68c5d1352e19c96ace4b467159c6826a341331a0988d04bc6820a341031a0808d03fc681fa340fb47e7c68c3dc681ea340f31a0778d039c681ca340de4b66e,
  0x414759e3b99051cad18e44147020a379051ba828dc4146da0a365051b0828d74146b20a3349ad964d6ca9d764b42b1e75d8d3aec568c61b4630905182828c068c5fb462f8f7d7ae08bc68c5d1352e19c96ace4b467159c6826a341331a0988d04bc6820a341031a0808d03fc681fa340fb47e7c68c3dc681ea340f31a0778d039c681ca340de5666e,
  0x414759e3b99051cad18e44147020a379051ba828dc4146da0a365051b0828d74146b20a3349ad964d6ca9d764b42b1e75d8d3aec568c61b4630905182828c068c5fb462f8f7d7ae08bc68c5d1352e19c96ace4b467159c6826a341331a0988d04bc6820a341031a0808d03fc681fa340fb47e7c68c3dc681ea340f31a0778d039c681ca340de5b26e,
  0x414759e3b99051cad18e44147020a379051ba828dc4146da0a365051b0828d74146b20a3349ad964d6ca9d764b42b1e75d8d3aec568c61b4630905182828c068c5fb462f8f7d7ae08bc68c5d1352e19c96ace4b467159c6826a341331a0988d04bc6820a341031a0808d03fc681fa340fb47e7c68c3dc681ea340f31a0778d039c681ca340de5b46e,
  0x414759e3b99051cad18e44147020a379051ba828dc4146da0a365051b0828d74146b20a3349ad964d6ca9d764b42b1e75d8d3aec568c61b4630905182828c068c5fb462f8f7d7ae08bc68c5d1352e19c96ace4b467159c6826a341331a0988d04bc6820a341031a0808d03fc681fa340fb47e7c68c3dc681ea340f31a0778d039c681ca340de5be6e,
  0x414759e3b99051cad18e44147020a379051ba828dc4146da0a365051b0828d74146b20a3349ad964d6ca9d764b42b1e75d8d3aec568c61b4630905182828c068c5fb462f8f7d7ae08bc68c5d1352e19c96ace4b467159c6826a341331a0988d04bc6820a341031a0808d03fc681fa340fb47e7c68c3dc681ea340f31a0778d039c681ca340de5c86e,
  0x414759e3b99051cad18e44147020a379051ba828dc4146da0a365051b0828d74146b20a3349ad964d6ca9d764b42b1e75d8d3aec568c61b4630905182828c068c5fb462f8f7d7ae08bc68c5d1352e19c96ace4b467159c6826a341331a0988d04bc6820a341031a0808d03fc681fa340fb47e7c68c3dc681ea340f31a0778d039c681ca340de5cc6e,
  0x414759e3b99051cad18e44147020a379051ba828dc4146da0a365051b0828d74146b20a3349ad964d6ca9d764b42b1e75d8d3aec568c61b4630905182828c068c5fb462f8f7d7ae08bc68c5d1352e19c96ace4b467159c6826a341331a0988d04bc6820a341031a0808d03fc681fa340fb47e7c68c3dc681ea340f31a0778d039c681ca340de5ce6e,
  0x414759e3b99051cad18e44147020a379051ba828dc4146da0a365051b0828d74146b20a3349ad964d6ca9d764b42b1e75d8d3aec568c61b4630905182828c068c5fb462f8f7d7ae08bc68c5d1352e19c96ace4b467159c6826a341331a0988d04bc6820a341031a0808d03fc681fa340fb47e7c68c3dc681ea340f31a0778d039c681ca340de5da6e,
  0x414759e3b99051cad18e44147020a379051ba828dc4146da0a365051b0828d74146b20a3349ad964d6ca9d764b42b1e75d8d3aec568c61b4630905182828c068c5fb462f8f7d7ae08bc68c5d1352e19c96ace4b467159c6826a341331a0988d04bc6820a341031a0808d03fc681fa340fb47e7c68c3dc681ea340f31a0778d039c681ca340de56e6e,
  0x414759e3b99051cad18e44147020a379051ba828dc4146da0a365051b0828d74146b20a3349ad964d6ca9d764b42b1e75d8d3aec568c61b4630905182828c068c5fb462f8f7d7ae08bc68c5d1352e19c96ace4b467159cc026a60133300989804bcc020a60103300809803fcc01fa600fb47e7c68c3dcc01ea600f33007798039cc01ca600de5046e,
  0x414759e3b99051cad18e44147020a379051ba828dc4146da0a365051b0828d74146b20a3349ad964d6ca9d764b42b1e75d8d3aec568c61b4630905182828c068c5fb462f8f7d7ae08bc68c5d1352e19c96ace4b467159c6826a341331a0988d04bc6820a341031a0808d03fc681fa340fb47e7c68c3dc681ea340f31a0778d039c681ca340de5de6e,
  0x414759e3b99051cad18e44147020a379051ba828dc4146da0a365051b0828d74146b20a3349ad964d6ca9d764b42b1e75d8d3aec568c61b4630905182828c068c5fb462f8f7d7ae08bc68c5d1352e19c96ace4b467159c6826a341331a0988d04bc6820a341031a0808d03fc681fa340fb47e7c68c3dc681ea340f31a0778d039c681ca340de5e66e,
  0x414759e3b99051cad18e44147020a379051ba828dc4146da0a365051b0828d74146b20a3349ad964d6ca9d764b42b1e75d8d3aec568c61b4630905182828c068c5fb462f8f7d7ae08bc68c5d1352e19c96ace4b467159c6826a341331a0988d04bc6820a341031a0808d03fc681fa340fb47e7c68c3dc681ea340f31a0778d039c681ca340de5ea6e,
  0x414759e3b99051cad18e44147020a379051ba828dc4146da0a365051b0828d74146b20a3349ad964d6ca9d764b42b1e75d8d3aec568c61b4630905182828c068c5fb462f8f7d7ae08bc68c5d1352e19c96ace4b467159c6826a341331a0988d04bc6820a341031a0808d03fc681fa340fb47e7c68c3dc681ea340f31a0778d039c681ca340de5946e,
  0x414759e3b99051cad18e44147020a379051ba828dc4146da0a365051b0828d74146b20a3349ad964d6ca9d764b42b1e75d8d3aec568c61b4630905182828c068c5fb462f8f7d7ae08bc68c5d1352e19c96ace4b467159c6826a341331a0988d04bc6820a341031a0808d03fc681fa340fb47e7c68c3dc681ea340f31a0778d039c681ca340de5726e,
  0x414759e3b99051cad18e44147020a379051ba828dc4146da0a365051b0828d74146b20a3349ad964d6ca9d764b42b1e75d8d3aec568c61b4630905182828c068c5fb462f8f7d7ae08bc68c5d1352e19c96ace4b467159c6826a341331a0988d04bc6820a341031a0808d03fc681fa340fb47e7c68c3dc681ea340f31a0778d039c681ca340de5f26e,
  0x414759e3b99051cad18e44147020a379051ba828dc4146da0a365051b0828d74146b20a3349ad964d6ca9d764b42b1e75d8d3aec568c61b4630905182828c068c5fb462f8f7d7ae08bc68c5d1352e19c96ace4b467159cc026a60133300989804bcc020a60103300809803fcc01fa600fb47e7c68c3dcc01ea600f33007798039cc01ca600de5086e,
  0x414759e3b99051cad18e44147020a379051ba828dc4146da0a365051b0828d74146b20a3349ad964d6ca9d764b42b1e75d8d3aec568c61b4630905182828c068c5fb462f8f7d7ae08bc68c5d1352e19c96ace4b467159cc9a6a64d33326989934bcc9a0a64d03326809933fcc99fa64cfb47e7c68c3dcc99ea64cf33267799339cc99ca64cde50a6e,
  0x414759e3b99051cad18e44147020a379051ba828dc4146da0a365051b0828d74146b20a3349ad964d6ca9d764b42b1e75d8d3aec568c61b4630905182828c068c5fb462f8f7d7ae08bc68c5d1352e19c96ace4b467159c6826a341331a0988d04bc6820a341031a0808d03fc681fa340fb47e7c68c3dc681ea340f31a0778d039c681ca340de5766e,
  0x414759e3b99051cad18e44147020a379051ba828dc4146da0a365051b0828d74146b20a3349ad964d6ca9d764b42b1e75d8d3aec568c61b4630905182828c068c5fb462f8f7d7ae08bc68c5d1352e19c96ace4b467159ccfa6a67d3333e9899f4bccfa0a67d0333e8099f3fccf9fa67cfb47e7c68c3dccf9ea67cf333e7799f39ccf9ca67cdf4006e,
  0x414759e3b99051cad18e44147020a379051ba828dc4146da0a365051b0828d74146b20a3349ad964d6ca9d764b42b1e75d8d3aec568c61b4630905182828c068c5fb462f8f7d7ae08bc68c5d1352e19c96ace4b467159ccfa6a67d3333e9899f4bccfa0a67d0333e8099f3fccf9fa67cfb47e7c68c3dccf9ea67cf333e7799f39ccf9ca67cdf4046e,
  0x414759e3b99051cad18e44147020a379051ba828dc4146da0a365051b0828d74146b20a3349ad964d6ca9d764b42b1e75d8d3aec568c61b4630905182828c068c5fb462f8f7d7ae08bc68c5d1352e19c96ace4b467159ccfa6a67d3333e9899f4bccfa0a67d0333e8099f3fccf9fa67cfb47e7c68c3dccf9ea67cf333e7799f39ccf9ca67cdf4086e,
  0x414759e3b99051cad18e44147020a379051ba828dc4146da0a365051b0828d74146b20a3349ad964d6ca9d764b42b1e75d8d3aec568c61b4630905182828c068c5fb462f8f7d7ae08bc68c5d1352e19c96ace4b467159cc026a60133300989804bcc020a60103300809803fcc01fa600fb47e7c68c3dcc01ea600f33007798039cc01ca600de5106e,
  0x414759e3b99051cad18e44147020a379051ba828dc4146da0a365051b0828d74146b20a3349ad964d6ca9d764b42b1e75d8d3aec568c61b4630905182828c068c5fb462f8f7d7ae08bc68c5d1352e19c96ace4b467159ccfa6a67d3333e9899f4bccfa0a67d0333e8099f3fccf9fa67cfb47e7c68c3dccf9ea67cf333e7799f39ccf9ca67cdf40c6e,
  0x414759e3b99051cad18e44147020a379051ba828dc4146da0a365051b0828d74146b20a3349ad964d6ca9d764b42b1e75d8d3aec568c61b4630905182828c068c5fb462f8f7d7ae08bc68c5d1352e19c96ace4b467159ccfa6a67d3333e9899f4bccfa0a67d0333e8099f3fccf9fa67cfb47e7c68c3dccf9ea67cf333e7799f39ccf9ca67cdf4106e,
  0x414759e3b99051cad18e44147020a379051ba828dc4146da0a365051b0828d74146b20a3349ad964d6ca9d764b42b1e75d8d3aec568c61b4630905182828c068c5fb462f8f7d7ae08bc68c5d1352e19c96ace4b467159ccfa6a67d3333e9899f4bccfa0a67d0333e8099f3fccf9fa67cfb47e7c68c3dccf9ea67cf333e7799f39ccf9ca67cdf4166e,
  0x414759e3b99051cad18e44147020a379051ba828dc4146da0a365051b0828d74146b20a3349ad964d6ca9d764b42b1e75d8d3aec568c61b4630905182828c068c5fb462f8f7d7ae08bc68c5d1352e19c96ace4b467159cb5a6a5ad332d69896b4bcb5a0a5ad032d68096b3fcb59fa5acfb47e7c68c3dcb59ea5acf32d67796b39cb59ca5acde4c26e,
  0x414759e3b99051cad18e44147020a379051ba828dc4146da0a365051b0828d74146b20a3349ad964d6ca9d764b42b1e75d8d3aec568c61b4630905182828c068c5fb462f8f7d7ae08bc68c5d1352e19c96ace4b467159cb5a6a5ad332d69896b4bcb5a0a5ad032d68096b3fcb59fa5acfb47e7c68c3dcb59ea5acf32d67796b39cb59ca5acde57c6e,
  0x414759e3b99051cad18e44147020a379051ba828dc4146da0a365051b0828d74146b20a3349ad964d6ca9d764b42b1e75d8d3aec568c61b4630905182828c068c5fb462f8f7d7ae08bc68c5d1352e19c96ace4b467159cb5a6a5ad332d69896b4bcb5a0a5ad032d68096b3fcb59fa5acfb47e7c68c3dcb59ea5acf32d67796b39cb59ca5acde6266e,
  0x414759e3b99051cad18e44147020a379051ba828dc4146da0a365051b0828d74146b20a3349ad964d6ca9d764b42b1e75d8d3aec568c61b4630905182828c068c5fb462f8f7d7ae08bc68c5d1352e19c96ace4b467159cb5a6a5ad332d69896b4bcb5a0a5ad032d68096b3fcb59fa5acfb47e7c68c3dcb59ea5acf32d67796b39cb59ca5acde6286e,
  0x414759e3b99051cad18e44147020a379051ba828dc4146da0a365051b0828d74146b20a3349ad964d6ca9d764b42b1e75d8d3aec568c61b4630905182828c068c5fb462f8f7d7ae08bc68c5d1352e19c96ace4b467159cb5a6a5ad332d69896b4bcb5a0a5ad032d68096b3fcb59fa5acfb47e7c68c3dcb59ea5acf32d67796b39cb59ca5acde6326e,
  0x414759e3b99051cad18e44147020a379051ba828dc4146da0a365051b0828d74146b20a3349ad964d6ca9d764b42b1e75d8d3aec568c61b4630905182828c068c5fb462f8f7d7ae08bc68c5d1352e19c96ace4b467159cb5a6a5ad332d69896b4bcb5a0a5ad032d68096b3fcb59fa5acfb47e7c68c3dcb59ea5acf32d67796b39cb59ca5acde63c6e,
  0x414759e3b99051cad18e44147020a379051ba828dc4146da0a365051b0828d74146b20a3349ad964d6ca9d764b42b1e75d8d3aec568c61b4630905182828c068c5fb462f8f7d7ae08bc68c5d1352e19c96ace4b467159cb5a6a5ad332d69896b4bcb5a0a5ad032d68096b3fcb59fa5acfb47e7c68c3dcb59ea5acf32d67796b39cb59ca5acde6406e,
  0x414759e3b99051cad18e44147020a379051ba828dc4146da0a365051b0828d74146b20a3349ad964d6ca9d764b42b1e75d8d3aec568c61b4630905182828c068c5fb462f8f7d7ae08bc68c5d1352e19c96ace4b467159cb5a6a5ad332d69896b4bcb5a0a5ad032d68096b3fcb59fa5acfb47e7c68c3dcb59ea5acf32d67796b39cb59ca5acde6426e,
  0x414759e3b99051cad18e44147020a379051ba828dc4146da0a365051b0828d74146b20a3349ad964d6ca9d764b42b1e75d8d3aec568c61b4630905182828c068c5fb462f8f7d7ae08bc68c5d1352e19c96ace4b467159cb5a6a5ad332d69896b4bcb5a0a5ad032d68096b3fcb59fa5acfb47e7c68c3dcb59ea5acf32d67796b39cb59ca5acde64e6e,
  0x414759e3b99051cad18e44147020a379051ba828dc4146da0a365051b0828d74146b20a3349ad964d6ca9d764b42b1e75d8d3aec568c61b4630905182828c068c5fb462f8f7d7ae08bc68c5d1352e19c96ace4b467159cb5a6a5ad332d69896b4bcb5a0a5ad032d68096b3fcb59fa5acfb47e7c68c3dcb59ea5acf32d67796b39cb59ca5acde5846e,
  0x414759e3b99051cad18e44147020a379051ba828dc4146da0a365051b0828d74146b20a3349ad964d6ca9d764b42b1e75d8d3aec568c61b4630905182828c068c5fb462f8f7d7ae08bc68c5d1352e19c96ace4b467159cd5a6a6ad33356989ab4bcd5a0a6ad03356809ab3fcd59fa6acfb47e7c68c3dcd59ea6acf3356779ab39cd59ca6acde51c6e,
  0x414759e3b99051cad18e44147020a379051ba828dc4146da0a365051b0828d74146b20a3349ad964d6ca9d764b42b1e75d8d3aec568c61b4630905182828c068c5fb462f8f7d7ae08bc68c5d1352e19c96ace4b467159cb5a6a5ad332d69896b4bcb5a0a5ad032d68096b3fcb59fa5acfb47e7c68c3dcb59ea5acf32d67796b39cb59ca5acde6526e,
  0x414759e3b99051cad18e44147020a379051ba828dc4146da0a365051b0828d74146b20a3349ad964d6ca9d764b42b1e75d8d3aec568c61b4630905182828c068c5fb462f8f7d7ae08bc68c5d1352e19c96ace4b467159cb5a6a5ad332d69896b4bcb5a0a5ad032d68096b3fcb59fa5acfb47e7c68c3dcb59ea5acf32d67796b39cb59ca5acde65a6e,
  0x414759e3b99051cad18e44147020a379051ba828dc4146da0a365051b0828d74146b20a3349ad964d6ca9d764b42b1e75d8d3aec568c61b4630905182828c068c5fb462f8f7d7ae08bc68c5d1352e19c96ace4b467159cb5a6a5ad332d69896b4bcb5a0a5ad032d68096b3fcb59fa5acfb47e7c68c3dcb59ea5acf32d67796b39cb59ca5acde65e6e,
  0x414759e3b99051cad18e44147020a379051ba828dc4146da0a365051b0828d74146b20a3349ad964d6ca9d764b42b1e75d8d3aec568c61b4630905182828c068c5fb462f8f7d7ae08bc68c5d1352e19c96ace4b467159cb5a6a5ad332d69896b4bcb5a0a5ad032d68096b3fcb59fa5acfb47e7c68c3dcb59ea5acf32d67796b39cb59ca5acde5986e,
  0x414759e3b99051cad18e44147020a379051ba828dc4146da0a365051b0828d74146b20a3349ad964d6ca9d764b42b1e75d8d3aec568c61b4630905182828c068c5fb462f8f7d7ae08bc68c5d1352e19c96ace4b467159cb5a6a5ad332d69896b4bcb5a0a5ad032d68096b3fcb59fa5acfb47e7c68c3dcb59ea5acf32d67796b39cb59ca5acde5886e,
  0x414759e3b99051cad18e44147020a379051ba828dc4146da0a365051b0828d74146b20a3349ad964d6ca9d764b42b1e75d8d3aec568c61b4630905182828c068c5fb462f8f7d7ae08bc68c5d1352e19c96ace4b467159cb5a6a5ad332d69896b4bcb5a0a5ad032d68096b3fcb59fa5acfb47e7c68c3dcb59ea5acf32d67796b39cb59ca5acde6666e,
  0x414759e3b99051cad18e44147020a379051ba828dc4146da0a365051b0828d74146b20a3349ad964d6ca9d764b42b1e75d8d3aec568c61b4630905182828c068c5fb462f8f7d7ae08bc68c5d1352e19c96ace4b467159cd5a6a6ad33356989ab4bcd5a0a6ad03356809ab3fcd59fa6acfb47e7c68c3dcd59ea6acf3356779ab39cd59ca6acde5206e,
  0x414759e3b99051cad18e44147020a379051ba828dc4146da0a365051b0828d74146b20a3349ad964d6ca9d764b42b1e75d8d3aec568c61b4630905182828c068c5fb462f8f7d7ae08bc68c5d1352e19c96ace4b467159cdba6a6dd3336e989b74bcdba0a6dd0336e809b73fcdb9fa6dcfb47e7c68c3dcdb9ea6dcf336e779b739cdb9ca6dcde5226e,
  0x414759e3b99051cad18e44147020a379051ba828dc4146da0a365051b0828d74146b20a3349ad964d6ca9d764b42b1e75d8d3aec568c61b4630905182828c068c5fb462f8f7d7ae08bc68c5d1352e19c96ace4b467159cb5a6a5ad332d69896b4bcb5a0a5ad032d68096b3fcb59fa5acfb47e7c68c3dcb59ea5acf32d67796b39cb59ca5acde58c6e,
  0x414759e3b99051cad18e44147020a379051ba828dc4146da0a365051b0828d74146b20a3349ad964d6ca9d764b42b1e75d8d3aec568c61b4630905182828c068c5fb462f8f7d7ae08bc68c5d1352e19c96ace4b467159cd5a6a6ad33356989ab4bcd5a0a6ad03356809ab3fcd59fa6acfb47e7c68c3dcd59ea6acf3356779ab39cd59ca6acde5286e,
  0x414759e3b99051cad18e44147020a379051ba828dc4146da0a365051b0828d74146b20a3349ad964d6ca9d764b42b1e75d8d3aec568c61b4630905182828c068c5fb462f8f7d7ae08bc68c5d1352e19c96ace4b467159ca7a6a53d3329e9894f4bca7a0a53d0329e8094f3fca79fa53cfb47e7c68c3dca79ea53cf329e7794f39ca79ca53cdee666e,
  0x20a3acf1dcc828e568c7220a381051bc828dd4146e20a36d051b2828d84146ba0a3590519a4d6cb26b654ebb25a158f3aec69d762b4630da3184828c1414603462fda317c7bebd7045e3462e89a970ce4b56725a338ace789353c4999e24c4f125e789053c4819e2404f11fe788fd3c47da3f3e3461ee788f53c4799e23bcf11ce788e53c46f,
  0x20a3acf1dcc828e54147020a379051ba828dc4146da0a365051b0828d74146b20a33505196828ca41460a0a300f317a85cb8]

/-- Tables 128 to 191. -/
def gotos02 : List Nat := [
  0x2923acfa9cca48e552470292379491baa48dc5246da92365491b0a48d75246b29233549196a48ca52460a923011197a9feb8,
  0x262bacf71cc98ae54c570262b79315ba98adc4c56da62b65315b098ad74c56b262b353159698aca4c560a62b00ff97a9d6b8,
  0x2813acf99cca04e550270281379409baa04dc5026da81365409b0a04d75026b28133540996a04ca50260a813010c57aac6b8,
  0x251bacf61cc946e54a370251b7928dba946dc4a36da51b6528db0946d74a36b251b3528d96946ca4a360a51b00fc97a936b8,
  0x2ba3ad041ccae8e5574702ba3795d1baae8dc5746daba3655d1b0ae8d75746b2ba3355d196ae8ca57460aba3011b97aa80b8,
  0x2d83ad1e9ccb60e55b0702d83796c1bab60dc5b06dad83656c1b0b60d75b06b2d83356c196b60ca5b060ad83013b57ab5ab8,
  0x29e3acfb9cca78e553c7029e3794f1baa78dc53c6da9e3654f1b0a78d753c6b29e3354f196a78ca53c60a9e30117d7aadeb8,
  0x502759f3399409cae2ce4a4370a81381409bca04dd5026e28136d409b2a04d85026ba813594099aa08cb5046546a325c5986e2cc250260a81301c597ee2cbe3e55eb4eaf1c5974a06b8a0d5ad06ad234d67484b18d24ec692569d4f8e2c7b,
  0x53c759f73994f1cae50e4a4970a9e3814f1bca78dd53c6e29e36d4f1b2a78d853c6ba9e3594f19aa7ccb53e6548cb25ca186e50c253c60a9e301ca17ee50be3ed5eb4f2f1ca174a7ab8a1a5ad0d2d246967490b19194ec8ca56a80f8e507b,
  0x128dd67b0e64a372b74b9292dc2946e04a36f251b7528db8946db7416d251b6528db0946d74a36b251b3528d96946ca93d64b74b0dba584946c14a360374afdba57c7aebd68d5e374ae926d7127a9d8d94b49ea56accf8dd27b,
  0x502759f3399409cae2ce4a7770a81381409bca04dd5026e28136d409b2a04d85026ba813594099aa08cb504654a8325c5986e2cc250260a81301c597ee2cbe3e55eb512f1c5974a06b8a0d5ad06ad234d674ecb18df4ec6f2569d4f8e2c7b,
  0x828eb3c77320a395a31c8828e04146f20a375051b8828db4146ca0a361051ae828d641466935b2c9ad953c6c99e36433bb1e78d8d3c6c568c61b4630905182828c068c5fb462f8f7d7ae18bc68c5d1352e19c96ace4b467b59cf1a8a8fcf8d187b,
  0x828eb3c77320a395a31c8828e04146f20a375051b8828db4146ca0a361051ae828d641466935b2c9ad953c8c99e46433bb1e7918d3c8c568c61b4630905182828c068c5fb462f8f7d7ae18bc68c5d1352e19c96ace4b467b59cf228a8fcf8d187b,
  0x828eb3c77320a395a31c8828e04146f20a375051b8828db4146ca0a361051ae828d641466935b2c9ad953ecc99f66433bb1e7d98d3ecc568c61b4630905182828c068c5fb462f8f7d7ae18bc68c5d1352e19c96ace4b467b59cfb28a8fcf8d187b,
  0x502759f3399409cae2ce4a8f70a81381409bca04dd5026e28136d409b2a04d85026ba813594099aa08cb504654b6325c5986e2cc250260a81301c597ee2cbe3e55eb522f1c5974a06b8a0d5ad06ad234d67484b18d24ec692569d4f8e2c7b,
  0x53c759f73994f1cae50e4a7a70a9e3814f1bca78dd53c6e29e36d4f1b2a78d853c6ba9e3594f19aa7ccb53e6548cb25ca186e50c253c60a9e301ca17ee50be3ed5eb582f1ca174a7ab8a1a5ad0d2d2469674f2b19194ec8ca56a80f8e507b,
  0x128dd67b0e64a372b74b929f1c2946e04a36f251b7528db8946db7686d251b6528db0946d74a36b251b3528d96946ca93d64b74b0dba584946c14a360374afdba57c7aebd6965e374ae926d7127a9d9514b49ea56accf8dd27b,
  0x502759f3399409cae2ce4aa270a81381409bca04dd5026e28136d409b2a04d85026ba813594099aa08cb504654c0b25c5986e2cc250260a81301c597ee2cbe3e55eb532f1c5974a06b8a0d5ad06ad234d6751cb19554ecaa2569d4f8e2c7b,
  0x502759f3399409cae2ce4ac470a81381409bca04dd5026e28136d409b2a04d85026ba813594099aa08cb504654d0325c5986e2cc250260a81301c597ee2cbe3e55eb552f1c5974a06b8a0d5ad06ad234d67484b18d24ec692569d4f8e2c7b,
  0x53c759f73994f1cae50e4a9270a9e3814f1bca78dd53c6e29e36d4f1b2a78d853c6ba9e3594f19aa7ccb53e6548cb25ca186e50c253c60a9e301ca17ee50be3ed5eb58af1ca174a7ab8a1a5ad0d2d246967490b19194ec8ca56a80f8e507b,
  0x128dd67b0e64a372b74b92a51c2946e04a36f251b7528db8946db7696d251b6528db0946d74a36b251b3528d96946ca93d64b74b0dba584946c14a360374afdba57c7aebd6975e374ae926d7127a9d96d4b49ea56accf8dd27b,
  0x502759f3399409cae2ce4a8f70a81381409bca04dd5026e28136d409b2a04d85026ba813594099aa08cb504654b6325c5986e2cc250260a81301c597ee2cbe3e55eb522f1c5974a06b8a0d5ad06ad234d674ecb18d24ec692569d4f8e2c7b,
  0x53c759f73994f1cae50e4aa570a9e3814f1bca78dd53c6e29e36d4f1b2a78d853c6ba9e3594f19aa7ccb53e6548cb25ca186e50c253c60a9e301ca17ee50be3ed5eb592f1ca174a7ab8a1a5ad0d2d246967522b19194ec8ca56a80f8e507b,
  0x128dd67b0e64a372b74b92a9dc2946e04a36f251b7528db8946db76a6d251b6528db0946d74a36b251b3528d96946ca93d64b74b0dba584946c14a360374afdba57c7aebd6985e374ae926d7127a9d9824b49ea56accf8dd27b,
  0x53c759f73994f1cae50e4ac570a9e3814f1bca78dd53c6e29e36d4f1b2a78d853c6ba9e3594f19aa7ccb53e6548cb25ca186e50c253c60a9e301ca17ee50be3ed5eb5a2f1ca174a7ab8a1a5ad0d2d246967490b19194ec8ca56a80f8e507b,
  0x128dd67b0e64a372b74b92ae5c2946e04a36f251b7528db8946db76b6d251b6528db0946d74a36b251b3528d96946ca93d64b74b0dba584946c14a360374afdba57c7aebd6995e374ae926d7127a9d9954b49ea56accf8dd27b,
  0x502759f3399409cae2ce4a8f70a81381409bca04dd5026e28136d409b2a04d85026ba813594099aa08cb504654b6325c5986e2cc250260a81301c597ee2cbe3e55eb522f1c5974a06b8a0d5ad06ad234d6751cb18d24ec692569d4f8e2c7b,
  0x53c759f73994f1cae50e4a9270a9e3814f1bca78dd53c6e29e36d4f1b2a78d853c6ba9e3594f19aa7ccb53e6548cb25ca186e50c253c60a9e301ca17ee50be3ed5eb58af1ca174a7ab8a1a5ad0d2d2469674f2b19194ec8ca56a80f8e507b,
  0x128dd67b0e64a372b74b92b1dc2946e04a36f251b7528db8946db76c6d251b6528db0946d74a36b251b3528d96946ca93d64b74b0dba584946c14a360374afdba57c7aebd69a5e374ae926d7127a9d9a14b49ea56accf8dd27b,
  0x502759f3399409cae2ce4a8f70a81381409bca04dd5026e28136d409b2a04d85026ba813594099aa08cb504654b6325c5986e2cc250260a81301c597ee2cbe3e55eb522f1c5974a06b8a0d5ad06ad234d67542b18d24ec692569d4f8e2c7b,
  0x128dd67b0e64a372b74b92b51c2946e04a36f251b7528db8946db76d6d251b6528db0946d74a36b251b3528d96946ca93d64b74b0dba584946c14a360374afdba57c7aebd69b5e374ae926d7127a9d9ad4b49ea56accf8dd27b,
  0x502759f3399409cae2ce4a8f70a81381409bca04dd5026e28136d409b2a04d85026ba813594099aa08cb504654b6325c5986e2cc250260a81301c597ee2cbe3e55eb522f1c5974a06b8a0d5ad06ad234d67568b18d24ec692569d4f8e2c7b,
  0x53c759f73994f1cae50e4a9270a9e3814f1bca78dd53c6e29e36d4f1b2a78d853c6ba9e3594f19aa7ccb53e6548cb25ca186e50c253c60a9e301ca17ee50be3ed5eb58af1ca174a7ab8a1a5ad0d2d246967522b19194ec8ca56a80f8e507b,
  0x128dd67b0e64a372b74b92b85c2946e04a36f251b7528db8946db76e6d251b6528db0946d74a36b251b3528d96946ca93d64b74b0dba584946c14a360374afdba57c7aebd69c5e374ae926d7127a9d9b94b49ea56accf8dd27b,
  0x53c759f73994f1cae50e4a9270a9e3814f1bca78dd53c6e29e36d4f1b2a78d853c6ba9e3594f19aa7ccb53e6548cb25ca186e50c253c60a9e301ca17ee50be3ed5eb58af1ca174a7ab8a1a5ad0d2d246967548b19194ec8ca56a80f8e507b,
  0x53c759f73994f1cae50e4a9270a9e3814f1bca78dd53c6e29e36d4f1b2a78d853c6ba9e3594f19aa7ccb53e6548cb25ca186e50c253c60a9e301ca17ee50be3ed5eb58af1ca174a7ab8a1a5ad0d2d24696756cb19194ec8ca56a80f8e507b,
  0x1491d67d4e652472a92381491bca48dd5246e29236d491b2a48d85246ba923594919ab3acb59d6529230549180c94bd59c5c32d2d596968cbab3,
  0x262badf81d27b8e64c572b79391315c098ade4c56ea62b71315b698ad94c56c262b5d315ac98acd4a565a52b29f8192fc0c76f261b793093158298ac06f25fb792f8f6d7ad72bc6f25d2522e19c96ace4b49df59bf028ab0cf8de47b,
  0x262bae0f9d27b8e64c572b79391315c098ade4c56ea62b71315b698ad94c56c262b5d315ac98acd4a565a52b2a0f99307cc76f261b793093158298ac06f25fb792f8f6d7ad72bc6f25d2522e19c96ace4b49df59c1f28ab0cf8de47b,
  0xa04eb3e673281395c59c951ee150270281379409baa04dc5026da81365409b0a04d75026b28133540996a04ca96c64b8b30dc5984a04c15026038b2fdc597c7cabd69f5e38b2e958d711a49d8d24ac72a469d4f8e2c7b,
  0x1491d67d4e652472a92381491bca48dd5246e29236d491b2a48d85246ba923594919aba8cb5d46529230549180cd4bd5d35c3392d59c968cecb3,
  0x1051d678ee641472b46391051c0828de4146ea0a371051b6828d94146c20a35d051acf42d47a169bd0b49e85a2f42d077a67a0a33505196828ca68c61b4630905182828c068c5fb462f8f297ad76bc68c5d2172e28fcf8d187b,
  0x502759f3399409cae2ce450270281379409baa04dc5026da81365409b0a04d75026b4763554099aa04cb5026538b30dc5984a04c15026038b2fdc597c7cabd6a05e38b2e958d711da9d8ec4b4762569d4f8e2c7b,
  0x16c1d68f4e65b072b7db916c1c0b60de5b06ead83716c1b6b60d95b06c2d835d6c1ad040d482069c1034a081a3040d078067ad83356c196b60ca6fb61b7db096c182b60c06fb5fb7daf92017adcebc6fb5d2d6ae2b74f8df67b,
  0x1491d67d4e652472b5e391491c0a48de5246ea92371491b6a48d95246c29235d491acfbad47dd69beeb49f75a2fbad07ed67a9233549196a48ca6bc61b5e30949182a48c06bc5fb5e2f8fa57adc2bc6bc5d27fae2a34f8d787b,
  0x1051d678ee641472b46391051c0828de4146ea0a371051b6828d94146c20a35d051acf42d47a169bd0b49e85a2f42d07ee67a0a33505196828ca68c61b4630905182828c068c5fb462f8f297ad76bc68c5d2172e28fcf8d187b,
  0x1491d67d4e652472b5e391491c0a48de5246ea92371491b6a48d95246c29235d491acfbad47dd69beeb49f75a2fbad07ef67a9233549196a48ca6bc61b5e30949182a48c06bc5fb5e2f8fa57adc2bc6bc5d27fae2a34f8d787b,
  0x57475a083995d1cad8ee4574702ba3795d1baae8dc5746daba3655d1b0ae8d75746b4b93555d19aae8cb57465363b0db1d84ae8c157460363afdb1d7c826bd7495e363ae9501712e69d9724b4b9256b40f8d8e7b,
  0x1491d67d4e652472b5e391491c0a48de5246ea92371491b6a48d95246c29235d491acfbad47dd69beeb49f75a2fbad090867a9233549196a48ca6bc61b5e30949182a48c06bc5fb5e2f8fa57adc2bc6bc5d27fae2a34f8d787b,
  0x1491d67d4e652472b5e391491c0a48de5246ea92371491b6a48d95246c29235d491acfbad47dd69beeb49f75a2fbad090b67a9233549196a48ca6bc61b5e30949182a48c06bc5fb5e2f8fa57adc2bc6bc5d27fae2a34f8d787b,
  0x16c1d68f4e65b072b7db916c1c0b60de5b06ead83716c1b6b60d95b06c2d835d6c1ad040d482069c1034a081a3040d07f667ad83356c196b60ca6fb61b7db096c182b60c06fb5fb7daf92017adcebc6fb5d2d6ae2b74f8df67b,
  0x1491d67d4e652472b5e391491c0a48de5246ea92371491b6a48d95246c29235d491acfbad47dd69beeb49f75a2fbad090d67a9233549196a48ca6bc61b5e30949182a48c06bc5fb5e2f8fa57adc2bc6bc5d27fae2a34f8d787b,
  0x1491d67d4e652472b5e391491c0a48de5246ea92371491b6a48d95246c29235d491acfbad47dd69beeb49f75a2fbad091067a9233549196a48ca6bc61b5e30949182a48c06bc5fb5e2f8fa57adc2bc6bc5d27fae2a34f8d787b,
  0x1051d678ee641472b46391051c0828de4146ea0a371051b6828d94146c20a35d051acf42d47a169bd0b49e85a2f42d07ac67a0a33505196828ca68c61b4630905182828c068c5fb462f8f297ad76bc68c5d2172e28fcf8d187b,
  0x1051d678ee641472b46391051c0828de4146ea0a371051b6828d94146c20a35d051acf42d47a169bd0b49e85a2f42d07ad67a0a33505196828ca68c61b4630905182828c068c5fb462f8f297ad76bc68c5d2172e28fcf8d187b,
  0x15d1d6820e657472b63b915d1c0ae8de5746eaba3715d1b6ae8d95746c2ba35d5d1acf8ed47c769be3b49f1da2f8ed07af67aba3355d196ae8ca6c761b63b095d182ae8c06c75fb63af904d7ad8abc6c75d2a02e2b40f8d8e7b,
  0x15d1d6820e657472b63b915d1c0ae8de5746eaba3715d1b6ae8d95746c2ba35d5d1acf8ed47c769be3b49f1da2f8ed081667aba3355d196ae8ca6c761b63b095d182ae8c06c75fb63af904d7ad8abc6c75d2a02e2b40f8d8e7b,
  0x16c1d68f4e65b072b7db916c1c0b60de5b06ead83716c1b6b60d95b06c2d835d6c1ad040d482069c1034a081a3040d082467ad83356c196b60ca6fb61b7db096c182b60c06fb5fb7daf92017adcebc6fb5d2d6ae2b74f8df67b,
  0x16c1d68f4e65b072b7db916c1c0b60de5b06ead83716c1b6b60d95b06c2d835d6c1ad040d482069c1034a081a3040d082567ad83356c196b60ca6fb61b7db096c182b60c06fb5fb7daf92017adcebc6fb5d2d6ae2b74f8df67b,
  0x98aeb3dc73262b95bc9c898ae04c56f262b75315b898adb4c56ca62b61315ae98ad64c566a62b2d31594de4c36f261262b0531580de4bf6f25f1edaf5b1978de4ba4eb5c41928ab0cf8de47b,
  0x15d1d6820e657472b63b915d1c0ae8de5746eaba3715d1b6ae8d95746c2ba35d5d1acf8ed47c769be3b49f1da2f8ed07ce67aba3355d196ae8ca6c761b63b095d182ae8c06c75fb63af904d7ad8abc6c75d2a02e2b40f8d8e7b,
  0x15d1d6820e657472b63b915d1c0ae8de5746eaba3715d1b6ae8d95746c2ba35d5d1acf8ed47c769be3b49f1da2f8ed07cf67aba3355d196ae8ca6c761b63b095d182ae8c06c75fb63af904d7ad8abc6c75d2a02e2b40f8d8e7b,
  0x502759f3399409cae2ce450270281379409baa04dc5026da81365409b0a04d75026b4ad3554099aa04cb5026538b30dc5984a04c15026038b2fdc597c7cabd6a35e38b2e958d712b69d95a4b4ad2569d4f8e2c7b,
  0x502759f3399409cae2ce450270281379409baa04dc5026da81365409b0a04d75026b4b93554099aa04cb5026538b30dc5984a04c15026038b2fdc597c7cabd6a55e38b2e958d712e69d9724b4b92569d4f8e2c7b]

/-- Tables 192 to 255. -/
def gotos03 : List Nat := [
  0x502759f3399409cae2ce450270281379409baa04dc5026da81365409b0a04d75026b4c2b554099aa04cb5026538b30dc5984a04c15026038b2fdc597c7cabd6a75e38b2e958d7130c9d9854b4c2a569d4f8e2c7b,
  0x502759f3399409cae2ce450270281379409baa04dc5026da81365409b0a04d75026b4cc3554099aa04cb5026538b30dc5984a04c15026038b2fdc597c7cabd6a95e38b2e958d713329d9984b4cc2569d4f8e2c7b,
  0x502759f3399409cae2ce450270281379409baa04dc5026da81365409b0a04d75026b4d23554099aa04cb5026538b30dc5984a04c15026038b2fdc597c7cabd6ab5e38b2e958d7134a9d9a44b4d22569d4f8e2c7b,
  0x502759f3399409cae2ce450270281379409baa04dc5026da81365409b0a04d75026b4d83554099aa04cb5026538b30dc5984a04c15026038b2fdc597c7cabd6ad5e38b2e958d713629d9b04b4d82569d4f8e2c7b,
  0x502759f3399409cae2ce450270281379409baa04dc5026da81365409b0a04d75026b4de3554099aa04cb5026538b30dc5984a04c15026038b2fdc597c7cabd6af5e38b2e958d7137a9d9bc4b4de2569d4f8e2c7b,
  0x16c1d68f4e65b072b7db916c1c0b60de5b06ead83716c1b6b60d95b06c2d835d6c1ad040d482069c1034a081a3040d07d667ad83356c196b60ca6fb61b7db096c182b60c06fb5fb7daf92017adcebc6fb5d2d6ae2b74f8df67b,
  0x16c1d68f4e65b072b7db916c1c0b60de5b06ead83716c1b6b60d95b06c2d835d6c1ad040d482069c1034a081a3040d07d767ad83356c196b60ca6fb61b7db096c182b60c06fb5fb7daf92017adcebc6fb5d2d6ae2b74f8df67b,
  0x16c1d68f4e65b072b7db916c1c0b60de5b06ead83716c1b6b60d95b06c2d835d6c1ad040d482069c1034a081a3040d07d867ad83356c196b60ca6fb61b7db096c182b60c06fb5fb7daf92017adcebc6fb5d2d6ae2b74f8df67b,
  0x1491d67d4e652472b5e391491c0a48de5246ea92371491b6a48d95246c29235d491acfbad47dd69beeb49f75a2fbad09cc67a9233549196a48ca6bc61b5e30949182a48c06bc5fb5e2f8fa57adc2bc6bc5d27fae2a34f8d787b,
  0x1491d67d4e652472b5e391491c0a48de5246ea92371491b6a48d95246c29235d491acfbad47dd69beeb49f75a2fbad09cd67a9233549196a48ca6bc61b5e30949182a48c06bc5fb5e2f8fa57adc2bc6bc5d27fae2a34f8d787b,
  0x1491d67d4e652472b5e391491c0a48de5246ea92371491b6a48d95246c29235d491acfbad47dd69beeb49f75a2fbad09ce67a9233549196a48ca6bc61b5e30949182a48c06bc5fb5e2f8fa57adc2bc6bc5d27fae2a34f8d787b,
  0x1491d67d4e652472b5e391491c0a48de5246ea92371491b6a48d95246c29235d491acfbad47dd69beeb49f75a2fbad09cf67a9233549196a48ca6bc61b5e30949182a48c06bc5fb5e2f8fa57adc2bc6bc5d27fae2a34f8d787b,
  0x502759f3399409cae2ce4a8f70a81381409bca04dd5026e28136d409b2a04d85026ba813594099aa04cb502654b6325c5986e2cc250260a81301c597ee2cbe3e55eb522f1c5974ac6b88d24ec692569d4f8e2c7b,
  0x53c759f73994f1cae50e4a9270a9e3814f1bca78dd53c6e29e36d4f1b2a78d853c6ba9e3594f19aa78cb53c6548cb25ca186e50c253c60a9e301ca17ee50be3ed5eb58af1ca174adeb89194ec8ca56a80f8e507b,
  0x502759f3399409cae2ce4ab570a81381409bca04dd5026e28136d409b2a04d85026ba813594099aa04cb502654ca325c5986e2cc250260a81301c597ee2cbe3e55eb542f1c5974ac6b89704ecb7a569d4f8e2c7b,
  0x57475a083995d1cad8ee4574702ba3795d1baae8dc5746daba3655d1b0ae8d75746b4fbb555d19aae8cb57465363b0db1d84ae8c157460363afdb1d7c826bd7895e363ae9501713f09d9f74b4fba56b40f8d8e7b,
  0x502759f3399409cae2ce4a4370a81381409bca04dd5026e28136d409b2a04d85026ba813594099aa04cb5026546a325c5986e2cc250260a81301c597ee2cbe3e55eb4eaf1c5974ac6b88d24ec692569d4f8e2c7b,
  0x53c759f73994f1cae50e4a4970a9e3814f1bca78dd53c6e29e36d4f1b2a78d853c6ba9e3594f19aa78cb53c6548cb25ca186e50c253c60a9e301ca17ee50be3ed5eb4f2f1ca174adeb89194ec8ca56a80f8e507b,
  0x502759f3399409cae2ce4a7770a81381409bca04dd5026e28136d409b2a04d85026ba813594099aa04cb502654a8325c5986e2cc250260a81301c597ee2cbe3e55eb512f1c5974ac6b88df4ec6f2569d4f8e2c7b,
  0x502759f3399409cae2ce4ad170a81381409bca04dd5026e28136d409b2a04d85026ba813594099aa04cb502654d6325c5986e2cc250260a81301c597ee2cbe3e55eb562f1c5974ac6b88d24ec692569d4f8e2c7b,
  0x53c759f73994f1cae50e4ab770a9e3814f1bca78dd53c6e29e36d4f1b2a78d853c6ba9e3594f19aa78cb53c6548cb25ca186e50c253c60a9e301ca17ee50be3ed5eb59af1ca174adeb89194ec8ca56a80f8e507b,
  0x502759f3399409cae2ce4aa270a81381409bca04dd5026e28136d409b2a04d85026ba813594099aa04cb502654c0b25c5986e2cc250260a81301c597ee2cbe3e55eb532f1c5974ac6b89554ecaa2569d4f8e2c7b,
  0x502759f3399409cae2ce4a7770a81381409bca04dd5026e28136d409b2a04d85026ba813594099aa04cb502654a8325c5986e2cc250260a81301c597ee2cbe3e55eb512f1c5974ac6b88d24ec692569d4f8e2c7b,
  0x53c759f73994f1cae50e4ad270a9e3814f1bca78dd53c6e29e36d4f1b2a78d853c6ba9e3594f19aa78cb53c6548cb25ca186e50c253c60a9e301ca17ee50be3ed5eb5aaf1ca174adeb89194ec8ca56a80f8e507b,
  0x502759f3399409cae2ce4ad170a81381409bca04dd5026e28136d409b2a04d85026ba813594099aa04cb502654d6325c5986e2cc250260a81301c597ee2cbe3e55eb562f1c5974ac6b88df4ec6f2569d4f8e2c7b,
  0x502759f3399409cae2ce4ade70a81381409bca04dd5026e28136d409b2a04d85026ba813594099aa04cb502654dc325c5986e2cc250260a81301c597ee2cbe3e55eb572f1c5974ac6b88d24ec692569d4f8e2c7b,
  0x53c759f73994f1cae50e4a7a70a9e3814f1bca78dd53c6e29e36d4f1b2a78d853c6ba9e3594f19aa78cb53c6548cb25ca186e50c253c60a9e301ca17ee50be3ed5eb582f1ca174adeb89194ec8ca56a80f8e507b,
  0x502759f3399409cae2ce4ade70a81381409bca04dd5026e28136d409b2a04d85026ba813594099aa04cb502654dc325c5986e2cc250260a81301c597ee2cbe3e55eb572f1c5974ac6b89554ecaa2569d4f8e2c7b,
  0x502759f3399409cae2ce4aa270a81381409bca04dd5026e28136d409b2a04d85026ba813594099aa04cb502654c0b25c5986e2cc250260a81301c597ee2cbe3e55eb532f1c5974ac6b88d24ec692569d4f8e2c7b,
  0x53c759f73994f1cae50e4aa570a9e3814f1bca78dd53c6e29e36d4f1b2a78d853c6ba9e3594f19aa78cb53c6548cb25ca186e50c253c60a9e301ca17ee50be3ed5eb592f1ca174adeb89194ec8ca56a80f8e507b,
  0x502759f3399409cae2ce4ac470a81381409bca04dd5026e28136d409b2a04d85026ba813594099aa04cb502654d0325c5986e2cc250260a81301c597ee2cbe3e55eb552f1c5974ac6b89704ecb7a569d4f8e2c7b,
  0x502759f3399409cae2ce4ac470a81381409bca04dd5026e28136d409b2a04d85026ba813594099aa04cb502654d0325c5986e2cc250260a81301c597ee2cbe3e55eb552f1c5974ac6b88d24ec692569d4f8e2c7b,
  0x53c759f73994f1cae50e4adf70a9e3814f1bca78dd53c6e29e36d4f1b2a78d853c6ba9e3594f19aa78cb53c6548cb25ca186e50c253c60a9e301ca17ee50be3ed5eb5b2f1ca174adeb89194ec8ca56a80f8e507b,
  0x502759f3399409cae2ce4ab570a81381409bca04dd5026e28136d409b2a04d85026ba813594099aa04cb502654ca325c5986e2cc250260a81301c597ee2cbe3e55eb542f1c5974ac6b88d24ec692569d4f8e2c7b,
  0x53c759f73994f1cae50e4ac570a9e3814f1bca78dd53c6e29e36d4f1b2a78d853c6ba9e3594f19aa78cb53c6548cb25ca186e50c253c60a9e301ca17ee50be3ed5eb5a2f1ca174adeb89194ec8ca56a80f8e507b,
  0x2ba3ad041ccae8e56c7722ba3815d1bcae8dd5746e2ba36d5d1b2ae8d85746baba3595d19aae8cb574654f5b25b1d86d8ec257460aba301b1d7ed8ebe4135ebbeaf1b1d74a80b89eb4ecf5a56b40f8d8e7b,
  0x1409d67cce650272b8b391409c0a04de5026ea81371409b6a04d95026c28135d409aca04cd50265a8132a00188e2cc37166128130540980e2cbf7165f1f2af5c4979000bb7165d2b1ae29d4f8e2c7b,
  0x2d83ad1e9ccb60e56fb722d83816c1bcb60dd5b06e2d836d6c1b2b60d85b06bad83596c19ab60cb5b06550bb25bed86df6c25b060ad8301bed7edf6be4805ebd52f1bed74b5ab8a174ed0ba56b74f8df67b,
  0x4c5759ee399315cade4e44c570262b79315ba98adc4c56da62b65315b098ad74c56b262b353159698aca6f261b793093158298ac06f25fb792f8f6d7adcabc6f25d275ae2b0cf8de47b,
  0x14f1d67dce653c72b943914f1c0a78de53c6ea9e3714f1b6a78d953c6c29e35d4f1aca78cd53c65a9e32a06d88e50c37286129e3054f180e50bf7285f1f6af5c8179036bb7285d2b7ae2a80f8e507b,
  0x262bacf71cc98ae56f272262b81315bc98add4c56e262b6d315b298ad84c56ba62b593159a98acb4c565510b25bc986de4c24c560a62b01bc97ede4be3db5ebdfaf1bc9749d6b8a214ed10a56b0cf8de47b,
  0x128dd67b0e64a372b74b9128dc0946de4a36ea51b7128db6946d94a36c251b5d28dac946cd4a365a51b2a0b188dd2c36e961251b0528d80dd2bf6e95f1ebaf5c9179058bb6e95d24dae2accf8dd27b,
  0x828eb3c77320a395a31c8828e04146f20a375051b8828db4146ca0a361051ae828d641466a0a32d05194d18c368c6120a30505180d18bf68c5f1e52f5b8178d18ba42e5c46aa8a8fcf8d187b,
  0x828eb3c77320a395a31c8828e04146f20a375051b8828db4146ca0a361051ae828d641466a0a32d05194d18c368c6120a30505180d18bf68c5f1e52f5c2978d18ba42e5c4ef28a8fcf8d187b,
  0x1491d67d4e652472b5e391491c0a48de5246ea92371491b73e2da5246ca92361491aea48d652466a9232d49194d78c36bc6129230549180d78bf6bc5f1f4af5fc178d78ba4ff5c4f8a5aa34f8d787b,
  0xae8eb410732ba395b1dc8ae8e05746f2ba3755d1b8ae8db5746caba3615d1aeae8d657466aba32d5d194d8ec36c7612ba3055d180d8ebf6c75f209af5d4978d8eba5405c50828ab40f8d8e7b,
  0xb60eb47a732d8395bedc8b60e05b06f2d83756c1b8b60db5b06cad83616c1aeb60d65b066ad832d6c194df6c36fb612d83056c180df6bf6fb5f2402f5d6578df6ba5ad5c50da8ab74f8df67b,
  0x828eb3c77320a395a31c8828e04146f20a375051b8828db4146ca0a361051ae828d641466a0a32d05194d18c368c6120a30505180d18bf68c5f1e52f5c2178d18ba42e5c4eca8a8fcf8d187b,
  0x414759e3b99051cad18e44147020a379051ba828dc4146da0a365051b0828d74146b20a33505196828ca68c61b4630905182828c068c5fb462f8f297ae1abc68c5d2172e28fcf8d187b,
  0x5b075a3d3996c1cadf6e45b0702d83796c1bab60dc5b06dad83656c1b0b60d75b06b2d83356c196b60ca6fb61b7db096c182b60c06fb5fb7daf92017ae94bc6fb5d2d6ae2b74f8df67b,
  0xb60eb47a732d8395bedc8b60e05b06f2d83756c1b8b60db5b06cad83616c1aeb60d65b066cfcb316c196b60ca6fb61b7db096c182b60c06fb5fb7daf92017ae9cbc6fb5d2d6ae2b74f8df67b,
  0x5b075a3d3996c1cadf6e45b0702d83796c1bab60dc5b06dad83656c1b0b60d75b06b2d83356c196b60ca6fb61b7db096c182b60c06fb5fb7daf92017ae9ebc6fb5d2d6ae2b74f8df67b,
  0x1491d67d4e652472b5e391491c0a48de5246ea92371491b6a48d95246c29235d491aca48cd52465a92329af186d78c252460a92301af17ed78be3e95ebb9af1af1749feb88d748d23242a34f8d787b,
  0x1491d67d4e652472b5e391491c0a48de5246ea92371491b6a48d95246c29235d491aca48cd52465a92329af186d78c252460a92301af17ed78be3e95ebb9af1af1749feb88d748d2ba42a34f8d787b,
  0xb60eb47a732d8395bedc8b60e05b06f2d83756c1b8b60db5b06cad83616c1aeb60d65b066c773316c196b60ca6fb61b7db096c182b60c06fb5fb7daf92017ae1cbc6fb5d2d6ae2b74f8df67b,
  0x414759e3b99051cad18e44147020a379051ba828dc4146da0a365051b0828d74146b20a33505196828ca68c61b4630905182828c068c5fb462f8f297ae8ebc68c5d2172e28fcf8d187b,
  0xa48eb3ea73292395af1c8a48e05246f292375491b8a48db5246ca92361491aea48d652466a9232d49194d78c36bc6129230549180d78bf6bc5f1f4af5dcd78d78ba4ff5c4f7246a34f8d787b,
  0xae8eb410732ba395b1dc8ae8e05746f2ba3755d1b8ae8db5746caba3615d1aeae8d657466aba32d5d194d8ec36c7612ba3055d180d8ebf6c75f209af5e8178d8eba5405c50c246b40f8d8e7b,
  0x5b075a3d3996c1cadf6e45b0702d83796c1bab60dc5b06dad83656c1b0b60d75b06b2d83356c196b60ca6fb61b7db096c182b60c06fb5fb7daf92017af14bc6fb5d2d6ae2b74f8df67b,
  0x1409d67cce650272b8b391409c0a04de5026ea81371409b6a04d95026c28135d409aca04cd50265a81329e3988e2cc37166128130540980e2cbf7165f1f2af5c4978f1cbb7165d2b1ae29d4f8e2c7b,
  0x5b075a3d3996c1cadf6e45b0702d83796c1bab60dc5b06dad83656c1b0b60d75b06b2d83356c196b60ca6fb61b7db096c182b60c06fb5fb7daf92017af28bc6fb5d2d6ae2b74f8df67b,
  0x1409d67cce650272b8b391409c0a04de5026ea81371409b6a04d95026c28135d409aca04cd50265a81329e5988e2cc37166128130540980e2cbf7165f1f2af5c4978f2cbb7165d2b1ae29d4f8e2c7b,
  0x5b075a3d3996c1cadf6e45b0702d83796c1bab60dc5b06dad83656c1b0b60d75b06b2d83356c196b60ca6fb61b7db096c182b60c06fb5fb7daf92017af34bc6fb5d2d6ae2b74f8df67b,
  0x1409d67cce650272b8b391409c0a04de5026ea81371409b6a04d95026c28135d409aca04cd50265a81329ffd88e2cc37166128130540980e2cbf7165f1f2af5c5178ffebb7165d2b1ae29d4f8e2c7b]

/-- Tables 256 to 319. -/
def gotos04 : List Nat := [
  0x1409d67cce650272b8b391409c0a04de5026ea81371409b6a04d95026c28135d409aca04cd50265a8132a01d88e2cc37166128130540980e2cbf7165f1f2af5c557900ebb7165d2b1ae29d4f8e2c7b,
  0x57475a083995d1cad8ee4574702ba3795d1baae8dc5746daba3655d1b0ae8d75746b2ba3355d196ae8ca6c761b63b095d182ae8c06c75fb63af904d7af7abc6c75d2a02e2b40f8d8e7b,
  0x5b075a3d3996c1cadf6e45b0702d83796c1bab60dc5b06dad83656c1b0b60d75b06b2d83356c196b60ca6fb61b7db096c182b60c06fb5fb7daf92017af96bc6fb5d2d6ae2b74f8df67b,
  0x14f1d67dce653c72b943914f1c0a78de53c6ea9e3714f1b6a78d953c6c29e35d4f1aca78cd53c65a9e329ec988e50c37286129e3054f180e50bf7285f1f6af5c8178f64bb7285d2b7ae2a80f8e507b,
  0x14f1d67dce653c72b943914f1c0a78de53c6ea9e3714f1b6a78d953c6c29e35d4f1aca78cd53c65a9e329ed988e50c37286129e3054f180e50bf7285f1f6af5c8178f6cbb7285d2b7ae2a80f8e507b,
  0x14f1d67dce653c72b943914f1c0a78de53c6ea9e3714f1b6a78d953c6c29e35d4f1aca78cd53c65a9e32a06988e50c37286129e3054f180e50bf7285f1f6af5c8979034bb7285d2b7ae2a80f8e507b,
  0x14f1d67dce653c72b943914f1c0a78de53c6ea9e3714f1b6a78d953c6c29e35d4f1aca78cd53c65a9e32a07d88e50c37286129e3054f180e50bf7285f1f6af5c8d7903ebb7285d2b7ae2a80f8e507b,
  0x128dd67b0e64a372b74b9128dc0946de4a36ea51b7128db6946d94a36c251b5d28dac946cd4a365a51b29f0188dd2c36e961251b0528d80dd2bf6e95f1ebaf5c9178f80bb6e95d24dae2accf8dd27b,
  0x128dd67b0e64a372b74b9128dc0946de4a36ea51b7128db6946d94a36c251b5d28dac946cd4a365a51b29f0988dd2c36e961251b0528d80dd2bf6e95f1ebaf5c9178f84bb6e95d24dae2accf8dd27b,
  0x128dd67b0e64a372b74b9128dc0946de4a36ea51b7128db6946d94a36c251b5d28dac946cd4a365a51b2a0ad88dd2c36e961251b0528d80dd2bf6e95f1ebaf5c9979056bb6e95d24dae2accf8dd27b,
  0x128dd67b0e64a372b74b9128dc0946de4a36ea51b7128db6946d94a36c251b5d28dac946cd4a365a51b2a0c188dd2c36e961251b0528d80dd2bf6e95f1ebaf5c9d79060bb6e95d24dae2accf8dd27b,
  0xb60eb47a732d8395bedc8b60e05b06f2d83756c1b8b60db5b06cad83616c1aeb60d65b066cae3316c196b60ca6fb61b7db096c182b60c06fb5fb7daf92017ae68bc6fb5d2d6ae2b74f8df67b,
  0xb60eb47a732d8395bedc8b60e05b06f2d83756c1b8b60db5b06cad83616c1aeb60d65b066cba3316c196b60ca6fb61b7db096c182b60c06fb5fb7daf92017ae6cbc6fb5d2d6ae2b74f8df67b,
  0xb60eb47a732d8395bedc8b60e05b06f2d83756c1b8b60db5b06cad83616c1aeb60d65b066cc3b316c196b60ca6fb61b7db096c182b60c06fb5fb7daf92017ae6ebc6fb5d2d6ae2b74f8df67b,
  0xb60eb47a732d8395bedc8b60e05b06f2d83756c1b8b60db5b06cad83616c1aeb60d65b066ccd3316c196b60ca6fb61b7db096c182b60c06fb5fb7daf92017ae70bc6fb5d2d6ae2b74f8df67b,
  0xb60eb47a732d8395bedc8b60e05b06f2d83756c1b8b60db5b06cad83616c1aeb60d65b066cd33316c196b60ca6fb61b7db096c182b60c06fb5fb7daf92017ae72bc6fb5d2d6ae2b74f8df67b,
  0xb60eb47a732d8395bedc8b60e05b06f2d83756c1b8b60db5b06cad83616c1aeb60d65b066cd93316c196b60ca6fb61b7db096c182b60c06fb5fb7daf92017ae74bc6fb5d2d6ae2b74f8df67b,
  0xb60eb47a732d8395bedc8b60e05b06f2d83756c1b8b60db5b06cad83616c1aeb60d65b066cdf3316c196b60ca6fb61b7db096c182b60c06fb5fb7daf92017ae76bc6fb5d2d6ae2b74f8df67b,
  0xb60eb47a732d8395bedc8b60e05b06f2d83756c1b8b60db5b06cad83616c1aeb60d65b066ce1b316c196b60ca6fb61b7db096c182b60c06fb5fb7daf92017ae78bc6fb5d2d6ae2b74f8df67b,
  0xb60eb47a732d8395bedc8b60e05b06f2d83756c1b8b60db5b06cad83616c1aeb60d65b066ce33316c196b60ca6fb61b7db096c182b60c06fb5fb7daf92017ae7abc6fb5d2d6ae2b74f8df67b,
  0x1491d67d4e652472b5e391491c0a48de5246ea92371491b6a48d95246c29235d491aca48cd52465a92329af186d78c252460a92301af17ed78be3e95ebb9af1af1749feb88d748d76242a34f8d787b,
  0x1491d67d4e652472b5e391491c0a48de5246ea92371491b6a48d95246c29235d491aca48cd52465a92329af186d78c252460a92301af17ed78be3e95ebb9af1af1749feb88d748d76a42a34f8d787b,
  0x828eb3c77320a395a31c8828e04146f20a375051b8828db4146ca0a361051ae828d641466a0a32d05194d18c368c6120a30505180d18bf68c5f1e52f5c2578d18ba42e5c4ed28a8fcf8d187b,
  0x11b0e6,
  0x524759f5399491cad78e452470292379491baa48dc5246da92365491b0a48d75246b29233549196a48ca6bc61b5e30949182a48c06bc5fb5e2f8fa57aefebc6bc5d27fae2a34f8d787b,
  0xa48eb3ea73292395af1c8a48e05246f292375491b8a48db5246ca92361491aea48d652466a9232d49194d78c36bc6129230549180d78bf6bc5f1f4af5d2178d78ba4ff5c530a8aa34f8d787b,
  0xa48eb3ea73292395af1c8a48e05246f292375491b8a48db5246ca92361491aea48d652466a9232d49194d78c36bc6129230549180d78bf6bc5f1f4af5d3578d78ba4ff5c53628aa34f8d787b,
  0x524759f5399491cad78e452470292379491baa48dc5246da92365491b0a48d75246b29233549196a48ca6bc61b5e30949182a48c06bc5fb5e2f8fa57af0abc6bc5d27fae2a34f8d787b,
  0x524759f5399491cad78e452470292379491baa48dc5246da92365491b0a48d75246b29233549196a48ca6bc61b5e30949182a48c06bc5fb5e2f8fa57afa8bc6bc5d27fae2a34f8d787b,
  0x524759f5399491cad78e452470292379491baa48dc5246da92365491b0a48d75246b29233549196a48ca6bc61b5e30949182a48c06bc5fb5e2f8fa57afb2bc6bc5d27fae2a34f8d787b,
  0xa48eb3ea73292395af1c8a48e05246f292375491b8a48db5246ca92361491aea48d652466a9232d49194d78c36bc6129230549180d78bf6bc5f1f4af5dc178d78ba4ff5c57828aa34f8d787b,
  0xa48eb3ea73292395af1c8a48e05246f292375491b8a48db5246ca92361491aea48d652466a9232d49194d78c36bc6129230549180d78bf6bc5f1f4af5dc578d78ba4ff5c57aa8aa34f8d787b,
  0x414759e3b99051cad18e44147020a379051ba828dc4146da0a365051b0828d74146b20a33505196828ca68c61b4630905182828c068c5fb462f8f297ae0ebc68c5d2172e28fcf8d187b,
  0x524759f5399491cad78e452470292379491baa48dc5246da92365491b0a48d75246b29233549196a48ca6bc61b5e30949182a48c06bc5fb5e2f8fa57afb6bc6bc5d27fae2a34f8d787b,
  0x524759f5399491cad78e452470292379491baa48dc5246da92365491b0a48d75246b29233549196a48ca6bc61b5e30949182a48c06bc5fb5e2f8fa57afb8bc6bc5d27fae2a34f8d787b,
  0x414759e3b99051cad18e44147020a379051ba828dc4146da0a365051b0828d74146b20a33505196828ca68c61b4630905182828c068c5fb462f8f297afbebc68c5d2172e28fcf8d187b,
  0x414759e3b99051cad18e44147020a379051ba828dc4146da0a365051b0828d74146b20a33505196828ca68c61b4630905182828c068c5fb462f8f297ad1cbc68c5d2172e28fcf8d187b,
  0x57475a083995d1cad8ee4574702ba3795d1baae8dc5746daba3655d1b0ae8d75746b2ba33542196a10ca6c761b63b095d182ae8c06c75fb63af93817aeecbc6c75d2a02e2b40f8d8e7b,
  0x414759e3b99051cad18e44147020a379051ba828dc4146da0a365051b0828d74146b20a33505196828ca68c61b4630905182828c068c5fb462f8f297ae8abc68c5d2172e28fcf8d187b,
  0x414759e3b99051cad18e44147020a379051ba828dc4146da0a365051b0828d74146b20a33505196828ca68c61b4630905182828c068c5fb462f8f297aeeebc68c5d2172e28fcf8d187b,
  0x4c5759ee399315cade4e44c570262b79315ba98adc4c56da62b65315b098ad74c56b262b353159698aca6f261b793093158298ac06f25fb792f8f6d7aef0bc6f25d275ae2b0cf8de47b,
  0x414759e3b99051cad18e44147020a379051ba828dc4146da0a365051b0828d74146b20a33505196828ca68c61b4630905182828c068c5fb462f8f297ad1ebc68c5d2172e28fcf8d187b,
  0x414759e3b99051cad18e44147020a379051ba828dc4146da0a365051b0828d74146b20a33505196828ca68c61b4630905182828c068c5fb462f8f297aef2bc68c5d2172e28fcf8d187b,
  0x414759e3b99051cad18e44147020a379051ba828dc4146da0a365051b0828d74146b20a33505196828ca68c61b4630905182828c068c5fb462f8f297ad20bc68c5d2172e28fcf8d187b,
  0x414759e3b99051cad18e44147020a379051ba828dc4146da0a365051b0828d74146b20a33505196828ca68c61b4630905182828c068c5fb462f8f297ad22bc68c5d2172e28fcf8d187b,
  0x524759f5399491cad78e452470292379491baa48dc5246da92365491b0a48d75246b29233549196a48ca6bc61b5e30949182a48c06bc5fb5e2f8fa57afccbc6bc5d27fae2a34f8d787b,
  0x414759e3b99051cad18e44147020a379051ba828dc4146da0a365051b0828d74146b20a33505196828ca68c61b4630905182828c068c5fb462f8f297ad24bc68c5d2172e28fcf8d187b,
  0x414759e3b99051cad18e44147020a379051ba828dc4146da0a365051b0828d74146b20a33505196828ca68c61b4630905182828c068c5fb462f8f297ad26bc68c5d2172e28fcf8d187b,
  0x414759e3b99051cad18e44147020a379051ba828dc4146da0a365051b0828d74146b20a33505196828ca68c61b4630905182828c068c5fb462f8f297aefcbc68c5d2172e28fcf8d187b,
  0x414759e3b99051cad18e44147020a379051ba828dc4146da0a365051b0828d74146b20a33505196828ca68c61b4630905182828c068c5fb462f8f297ae20bc68c5d2172e28fcf8d187b,
  0x4a3759ec39928dcadd2e44a370251b7928dba946dc4a36da51b6528db0946d74a36b251b3528d96946ca6e961b74b0928d82946c06e95fb74af8f5d7ae22bc6e95d24dae2accf8dd27b,
  0x524759f5399491cad78e452470292379491baa48dc5246da92365491b0a48d75246b29233549196a48ca6bc61b5e30949182a48c06bc5fb5e2f8fa57af02bc6bc5d27fae2a34f8d787b,
  0x414759e3b99051cad18e44147020a379051ba828dc4146da0a365051b0828d74146b20a33505196828ca68c61b4630905182828c068c5fb462f8f297ad28bc68c5d2172e28fcf8d187b,
  0x502759f3399409cae2ce450270281379409baa04dc5026da81365409b0a04d75026b28133540996a04ca71661b8b30940982a04c07165fb8b2f8f957ae96bc7165d2b1ae29d4f8e2c7b,
  0x524759f5399491cad78e452470292379491baa48dc5246da92365491b0a48d75246b29233549196a48ca6bc61b5e30949182a48c06bc5fb5e2f8fa57afe6bc6bc5d27fae2a34f8d787b,
  0x25e7c170a389791856c85,
  0x25f7c970a3897d1a56c85,
  0x414759e3b99051cad18e44147020a379051ba828dc4146da0a365051b0828d74146b20a33505196828ca68c61b4630905182828c068c5fb462f8f297ad2abc68c5d2172e28fcf8d187b,
  0x57475a083995d1cad8ee4574702ba3795d1baae8dc5746daba3655d1b0ae8d75746b2ba3355d196ae8ca6c761b63b095d182ae8c06c75fb63af904d7af0ebc6c75d2a02e2b40f8d8e7b,
  0x57475a083995d1cad8ee4574702ba3795d1baae8dc5746daba3655d1b0ae8d75746b2ba3355d196ae8ca6c761b63b095d182ae8c06c75fb63af904d7af10bc6c75d2a02e2b40f8d8e7b,
  0x524759f5399491cad78e452470292379491baa48dc5246da92365491b0a48d75246b29233549196a48ca6bc61b5e30949182a48c06bc5fb5e2f8fa57afeabc6bc5d27fae2a34f8d787b,
  0x25e7c178a389791857085,
  0x25f7c978a3897d1a57085,
  0x524759f5399491cad78e452470292379491baa48dc5246da92365491b0a48d75246b29233549196a48ca6bc61b5e30949182a48c06bc5fb5e2f8fa57af26bc6bc5d27fae2a34f8d787b]

/-- Tables 320 to 383. -/
def gotos05 : List Nat := [
  0x524759f5399491cad78e452470292379491baa48dc5246da92365491b0a48d75246b29233549196a48ca6bc61b5e30949182a48c06bc5fb5e2f8fa57affabc6bc5d27fae2a34f8d787b,
  0x524759f5399491cad78e452470292379491baa48dc5246da92365491b0a48d75246b29233549196a48ca6bc61b5e30949182a48c06bc5fb5e2f8fa57af32bc6bc5d27fae2a34f8d787b,
  0x524759f5399491cad78e452470292379491baa48dc5246da92365491b0a48d75246b29233549196a48ca6bc61b5e30949182a48c06bc5fb5e2f8fa57affcbc6bc5d27fae2a34f8d787b,
  0x502759f3399409cae2ce450270281379409baa04dc5026da81365409b0a04d75026b28133540996a04ca71661b8b30940982a04c07165fb8b2f8f957ae30bc7165d2b1ae29d4f8e2c7b,
  0x57475a083995d1cad8ee4574702ba3795d1baae8dc5746daba3655d1b0ae8d75746b2ba3355d196ae8ca6c761b63b095d182ae8c06c75fb63af904d7af50bc6c75d2a02e2b40f8d8e7b,
  0x502759f3399409cae2ce450270281379409baa04dc5026da81365409b0a04d75026b28133540996a04ca71661b8b30940982a04c07165fb8b2f8f957ae32bc7165d2b1ae29d4f8e2c7b,
  0x502759f3399409cae2ce450270281379409baa04dc5026da81365409b0a04d75026b28133540996a04ca71661b8b30940982a04c07165fb8b2f8f957ae34bc7165d2b1ae29d4f8e2c7b,
  0x502759f3399409cae2ce450270281379409baa04dc5026da81365409b0a04d75026b28133540996a04ca71661b8b30940982a04c07165fb8b2f8f957ae36bc7165d2b1ae29d4f8e2c7b,
  0x502759f3399409cae2ce450270281379409baa04dc5026da81365409b0a04d75026b28133540996a04ca71661b8b30940982a04c07165fb8b2f8f957ae38bc7165d2b1ae29d4f8e2c7b,
  0x502759f3399409cae2ce450270281379409baa04dc5026da81365409b0a04d75026b28133540996a04ca71661b8b30940982a04c07165fb8b2f8f957ae3cbc7165d2b1ae29d4f8e2c7b,
  0x2647c18da389911858285,
  0x2657c98da389951a58285,
  0x502759f3399409cae2ce450270281379409baa04dc5026da81365409b0a04d75026b28133540996a04ca71661b8b30940982a04c07165fb8b2f8f957ae3ebc7165d2b1ae29d4f8e2c7b,
  0x2647c195a389911858685,
  0x2657c995a389951a58685,
  0x524759f5399491cad78e452470292379491baa48dc5246da92365491b0a48d75246b29233549196a48ca6bc61b5e30949182a48c06bc5fb5e2f8fa57ad7cbc6bc5d27fae2a34f8d787b,
  0x524759f5399491cad78e452470292379491baa48dc5246da92365491b0a48d75246b29233549196a48ca6bc61b5e30949182a48c06bc5fb5e2f8fa57ad7ebc6bc5d27fae2a34f8d787b,
  0x524759f5399491cad78e452470292379491baa48dc5246da92365491b0a48d75246b29233549196a48ca6bc61b5e30949182a48c06bc5fb5e2f8fa57ad80bc6bc5d27fae2a34f8d787b,
  0x524759f5399491cad78e452470292379491baa48dc5246da92365491b0a48d75246b29233549196a48ca6bc61b5e30949182a48c06bc5fb5e2f8fa57ad82bc6bc5d27fae2a34f8d787b,
  0x524759f5399491cad78e452470292379491baa48dc5246da92365491b0a48d75246b29233549196a48ca6bc61b5e30949182a48c06bc5fb5e2f8fa57ad84bc6bc5d27fae2a34f8d787b,
  0x524759f5399491cad78e452470292379491baa48dc5246da92365491b0a48d75246b29233549196a48ca6bc61b5e30949182a48c06bc5fb5e2f8fa57ad86bc6bc5d27fae2a34f8d787b,
  0x524759f5399491cad78e452470292379491baa48dc5246da92365491b0a48d75246b29233549196a48ca6bc61b5e30949182a48c06bc5fb5e2f8fa57ad88bc6bc5d27fae2a34f8d787b,
  0x53c759f73994f1cae50e453c7029e3794f1baa78dc53c6da9e3654f1b0a78d753c6b29e3354f196a78ca72861b943094f182a78c07285fb942f8fb57ae54bc7285d2b7ae2a80f8e507b,
  0x53c759f73994f1cae50e453c7029e3794f1baa78dc53c6da9e3654f1b0a78d753c6b29e3354f196a78ca72861b943094f182a78c07285fb942f8fb57ae56bc7285d2b7ae2a80f8e507b,
  0x53c759f73994f1cae50e453c7029e3794f1baa78dc53c6da9e3654f1b0a78d753c6b29e3354f196a78ca72861b943094f182a78c07285fb942f8fb57ae58bc7285d2b7ae2a80f8e507b,
  0x53c759f73994f1cae50e453c7029e3794f1baa78dc53c6da9e3654f1b0a78d753c6b29e3354f196a78ca72861b943094f182a78c07285fb942f8fb57ae5abc7285d2b7ae2a80f8e507b,
  0x53c759f73994f1cae50e453c7029e3794f1baa78dc53c6da9e3654f1b0a78d753c6b29e3354f196a78ca72861b943094f182a78c07285fb942f8fb57ae5cbc7285d2b7ae2a80f8e507b,
  0x53c759f73994f1cae50e453c7029e3794f1baa78dc53c6da9e3654f1b0a78d753c6b29e3354f196a78ca72861b943094f182a78c07285fb942f8fb57ae5ebc7285d2b7ae2a80f8e507b,
  0x53c759f73994f1cae50e453c7029e3794f1baa78dc53c6da9e3654f1b0a78d753c6b29e3354f196a78ca72861b943094f182a78c07285fb942f8fb57ae60bc7285d2b7ae2a80f8e507b,
  0x4a3759ec39928dcadd2e44a370251b7928dba946dc4a36da51b6528db0946d74a36b251b3528d96946ca6e961b74b0928d82946c06e95fb74af8f5d7add6bc6e95d24dae2accf8dd27b,
  0x4a3759ec39928dcadd2e44a370251b7928dba946dc4a36da51b6528db0946d74a36b251b3528d96946ca6e961b74b0928d82946c06e95fb74af8f5d7add8bc6e95d24dae2accf8dd27b,
  0x4a3759ec39928dcadd2e44a370251b7928dba946dc4a36da51b6528db0946d74a36b251b3528d96946ca6e961b74b0928d82946c06e95fb74af8f5d7addabc6e95d24dae2accf8dd27b,
  0x4a3759ec39928dcadd2e44a370251b7928dba946dc4a36da51b6528db0946d74a36b251b3528d96946ca6e961b74b0928d82946c06e95fb74af8f5d7addcbc6e95d24dae2accf8dd27b,
  0x4a3759ec39928dcadd2e44a370251b7928dba946dc4a36da51b6528db0946d74a36b251b3528d96946ca6e961b74b0928d82946c06e95fb74af8f5d7addebc6e95d24dae2accf8dd27b,
  0x4a3759ec39928dcadd2e44a370251b7928dba946dc4a36da51b6528db0946d74a36b251b3528d96946ca6e961b74b0928d82946c06e95fb74af8f5d7ade0bc6e95d24dae2accf8dd27b,
  0x4a3759ec39928dcadd2e44a370251b7928dba946dc4a36da51b6528db0946d74a36b251b3528d96946ca6e961b74b0928d82946c06e95fb74af8f5d7ade2bc6e95d24dae2accf8dd27b,
  0x4c5759ee399315cade4e44c570262b79315ba98adc4c56da62b65315b098ad74c56b262b353159698aca6f261b793093158298ac06f25fb792f8f6d7ade8bc6f25d275ae2b0cf8de47b,
  0x4c5759ee399315cade4e44c570262b79315ba98adc4c56da62b65315b098ad74c56b262b353159698aca6f261b793093158298ac06f25fb792f8f6d7adeabc6f25d275ae2b0cf8de47b,
  0x4c5759ee399315cade4e44c570262b79315ba98adc4c56da62b65315b098ad74c56b262b353159698aca6f261b793093158298ac06f25fb792f8f6d7adecbc6f25d275ae2b0cf8de47b,
  0x4c5759ee399315cade4e44c570262b79315ba98adc4c56da62b65315b098ad74c56b262b353159698aca6f261b793093158298ac06f25fb792f8f6d7adeebc6f25d275ae2b0cf8de47b,
  0x4c5759ee399315cade4e44c570262b79315ba98adc4c56da62b65315b098ad74c56b262b353159698aca6f261b793093158298ac06f25fb792f8f6d7adf0bc6f25d275ae2b0cf8de47b,
  0x4c5759ee399315cade4e44c570262b79315ba98adc4c56da62b65315b098ad74c56b262b353159698aca6f261b793093158298ac06f25fb792f8f6d7adf2bc6f25d275ae2b0cf8de47b,
  0x4c5759ee399315cade4e44c570262b79315ba98adc4c56da62b65315b098ad74c56b262b353159698aca6f261b793093158298ac06f25fb792f8f6d7adf4bc6f25d275ae2b0cf8de47b,
  0x57475a083995d1cad8ee4574702ba3795d1baae8dc5746daba3655d1b0ae8d75746b2ba3355d196ae8ca6c761b63b095d182ae8c06c75fb63af904d7ad92bc6c75d2a02e2b40f8d8e7b,
  0x57475a083995d1cad8ee4574702ba3795d1baae8dc5746daba3655d1b0ae8d75746b2ba3355d196ae8ca6c761b63b095d182ae8c06c75fb63af904d7ad94bc6c75d2a02e2b40f8d8e7b,
  0x57475a083995d1cad8ee4574702ba3795d1baae8dc5746daba3655d1b0ae8d75746b2ba3355d196ae8ca6c761b63b095d182ae8c06c75fb63af904d7ad96bc6c75d2a02e2b40f8d8e7b,
  0x57475a083995d1cad8ee4574702ba3795d1baae8dc5746daba3655d1b0ae8d75746b2ba3355d196ae8ca6c761b63b095d182ae8c06c75fb63af904d7ad98bc6c75d2a02e2b40f8d8e7b,
  0x57475a083995d1cad8ee4574702ba3795d1baae8dc5746daba3655d1b0ae8d75746b2ba3355d196ae8ca6c761b63b095d182ae8c06c75fb63af904d7ad9abc6c75d2a02e2b40f8d8e7b,
  0x57475a083995d1cad8ee4574702ba3795d1baae8dc5746daba3655d1b0ae8d75746b2ba3355d196ae8ca6c761b63b095d182ae8c06c75fb63af904d7ad9cbc6c75d2a02e2b40f8d8e7b,
  0x57475a083995d1cad8ee4574702ba3795d1baae8dc5746daba3655d1b0ae8d75746b2ba3355d196ae8ca6c761b63b095d182ae8c06c75fb63af904d7ad9ebc6c75d2a02e2b40f8d8e7b,
  0x5b075a3d3996c1cadf6e45b0702d83796c1bab60dc5b06dad83656c1b0b60d75b06b2d83356c196b60ca6fb61b7db096c182b60c06fb5fb7daf92017adfabc6fb5d2d6ae2b74f8df67b,
  0x5b075a3d3996c1cadf6e45b0702d83796c1bab60dc5b06dad83656c1b0b60d75b06b2d83356c196b60ca6fb61b7db096c182b60c06fb5fb7daf92017adfcbc6fb5d2d6ae2b74f8df67b,
  0x5b075a3d3996c1cadf6e45b0702d83796c1bab60dc5b06dad83656c1b0b60d75b06b2d83356c196b60ca6fb61b7db096c182b60c06fb5fb7daf92017adfebc6fb5d2d6ae2b74f8df67b,
  0x5b075a3d3996c1cadf6e45b0702d83796c1bab60dc5b06dad83656c1b0b60d75b06b2d83356c196b60ca6fb61b7db096c182b60c06fb5fb7daf92017ae00bc6fb5d2d6ae2b74f8df67b,
  0x5b075a3d3996c1cadf6e45b0702d83796c1bab60dc5b06dad83656c1b0b60d75b06b2d83356c196b60ca6fb61b7db096c182b60c06fb5fb7daf92017ae02bc6fb5d2d6ae2b74f8df67b,
  0x5b075a3d3996c1cadf6e45b0702d83796c1bab60dc5b06dad83656c1b0b60d75b06b2d83356c196b60ca6fb61b7db096c182b60c06fb5fb7daf92017ae04bc6fb5d2d6ae2b74f8df67b,
  0x5b075a3d3996c1cadf6e45b0702d83796c1bab60dc5b06dad83656c1b0b60d75b06b2d83356c196b60ca6fb61b7db096c182b60c06fb5fb7daf92017ae06bc6fb5d2d6ae2b74f8df67b,
  0x502759f3399409cae2ce450270281379409baa04dc5026da81365409b0a04d75026b28133540996a04ca71661b8b30940982a04c07165fb8b2f8f957ae2ebc7165d2b1ae29d4f8e2c7b,
  0x5b075a3d3996c1cadf6e45b0702d83796c1bab60dc5b06dad83656c1b0b60d75b06b2d833558996ac4ca6fb61b7db096c182b60c06fb5fb7daf93a17af46bc6fb5d2d6ae2b74f8df67b,
  0x57475a083995d1cad8ee4574702ba3795d1baae8dc5746daba3655d1b0ae8d75746b2ba3355d196ae8ca6c761b63b095d182ae8c06c75fb63af904d7af4ebc6c75d2a02e2b40f8d8e7b,
  0x4c5759ee399315cade4e44c570262b79315ba98adc4c56da62b65315b098ad74c56b262b353159698aca6f261b793093158298ac06f25fb792f8f6d7af5cbc6f25d275ae2b0cf8de47b,
  0x57475a083995d1cad8ee4574702ba3795d1baae8dc5746daba3655d1b0ae8d75746b2ba3355d196ae8ca6c761b63b095d182ae8c06c75fb63af904d7af60bc6c75d2a02e2b40f8d8e7b,
  0x53c759f73994f1cae50e453c7029e3794f1baa78dc53c6da9e3654f1b0a78d753c6b29e3354f196a78ca72861b943094f182a78c07285fb942f8fb57aeaabc7285d2b7ae2a80f8e507b,
  0x57475a083995d1cad8ee4574702ba3795d1baae8dc5746daba3655d1b0ae8d75746b2ba3355d196ae8ca6c761b63b095d182ae8c06c75fb63af904d7af6abc6c75d2a02e2b40f8d8e7b]

/-- Tables 384 to 447. -/
def gotos06 : List Nat := [
  0x5b075a3d3996c1cadf6e45b0702d83796c1bab60dc5b06dad83656c1b0b60d75b06b2d83356c196b60ca6fb61b7db096c182b60c06fb5fb7daf92017af78bc6fb5d2d6ae2b74f8df67b,
  0x524759f5399491cad78e452470292379491baa48dc5246da92365491b0a48d75246b29233549196a48ca6bc61b5e30949182a48c06bc5fb5e2f8fa57ad7abc6bc5d27fae2a34f8d787b,
  0x4c5759ee399315cade4e44c570262b79315ba98adc4c56da62b65315b098ad74c56b262b353199698cca6f261b793093158298ac06f25fb792f93f97af76bc6f25d275ae2b0cf8de47b,
  0x4a3759ec39928dcadd2e44a370251b7928dba946dc4a36da51b6528db0946d74a36b251b3528d96946ca6e961b74b0928d82946c06e95fb74af8f5d7aebcbc6e95d24dae2accf8dd27b,
  0x4c5759ee399315cade4e44c570262b79315ba98adc4c56da62b65315b098ad74c56b262b353159698aca6f261b793093158298ac06f25fb792f8f6d7add0bc6f25d275ae2b0cf8de47b,
  0x53c759f73994f1cae50e453c7029e3794f1baa78dc53c6da9e3654f1b0a78d753c6b29e3354f196a78ca72861b943094f182a78c07285fb942f8fb57ae52bc7285d2b7ae2a80f8e507b,
  0x57475a083995d1cad8ee4574702ba3795d1baae8dc5746daba3655d1b0ae8d75746b2ba33578596bc2ca6c761b63b095d182ae8c06c75fb63af904d7aeecbc6c75d2a02e2b40f8d8e7b,
  0x524759f5399491cad78e452470292379491baa48dc5246da92365491b0a48d75246b29233549196a48ca6bc61b5e30949182a48c06bc5fb5e2f8fa57b06cbc6bc5d27fae2a34f8d787b,
  0x4a3759ec39928dcadd2e44a370251b7928dba946dc4a36da51b6528db0946d74a36b251b3528d96946ca6e961b74b0928d82946c06e95fb74af8f5d7add4bc6e95d24dae2accf8dd27b,
  0x5b075a3d3996c1cadf6e45b0702d83796c1bab60dc5b06dad83656c1b0b60d75b06b2d833578996bc4ca6fb61b7db096c182b60c06fb5fb7daf92017af46bc6fb5d2d6ae2b74f8df67b,
  0x4c5759ee399315cade4e44c570262b79315ba98adc4c56da62b65315b098ad74c56b262b353159698aca6f261b793093158298ac06f25fb792f8f6d7ade6bc6f25d275ae2b0cf8de47b,
  0x4c5759ee399315cade4e44c570262b79315ba98adc4c56da62b65315b098ad74c56b262b3578d96bc6ca6f261b793093158298ac06f25fb792f8f6d7af76bc6f25d275ae2b0cf8de47b,
  0x57475a083995d1cad8ee4574702ba3795d1baae8dc5746daba3655d1b0ae8d75746b2ba3355d196ae8ca6c761b63b095d182ae8c06c75fb63af904d7ad90bc6c75d2a02e2b40f8d8e7b,
  0x5b075a3d3996c1cadf6e45b0702d83796c1bab60dc5b06dad83656c1b0b60d75b06b2d83356c196b60ca6fb61b7db096c182b60c06fb5fb7daf92017adf8bc6fb5d2d6ae2b74f8df67b,
  0x524759f5399491cad78e452470292379491baa48dc5246da92365491b0a48d75246b29233549196a48ca6bc61b5e30949182a48c06bc5fb5e2f8fa57b07ebc6bc5d27fae2a34f8d787b,
  0x524759f5399491cad78e452470292379491baa48dc5246da92365491b0a48d75246b29233549196a48ca6bc61b5e30949182a48c06bc5fb5e2f8fa57b082bc6bc5d27fae2a34f8d787b,
  0x524759f5399491cad78e452470292379491baa48dc5246da92365491b0a48d75246b29233549196a48ca6bc61b5e30949182a48c06bc5fb5e2f8fa57b086bc6bc5d27fae2a34f8d787b,
  0x524759f5399491cad78e452470292379491baa48dc5246da92365491b0a48d75246b29233549196a48ca6bc61b5e30949182a48c06bc5fb5e2f8fa57b08abc6bc5d27fae2a34f8d787b,
  0x524759f5399491cad78e452470292379491baa48dc5246da92365491b0a48d75246b29233549196a48ca6bc61b5e30949182a48c06bc5fb5e2f8fa57b08cbc6bc5d27fae2a34f8d787b,
  0x524759f5399491cad78e452470292379491baa48dc5246da92365491b0a48d75246b29233549196a48ca6bc61b5e30949182a48c06bc5fb5e2f8fa57b08ebc6bc5d27fae2a34f8d787b,
  0x524759f5399491cad78e452470292379491baa48dc5246da92365491b0a48d75246b29233549196a48ca6bc61b5e30949182a48c06bc5fb5e2f8fa57b090bc6bc5d27fae2a34f8d787b,
  0x524759f5399491cad78e452470292379491baa48dc5246da92365491b0a48d75246b29233549196a48ca6bc61b5e30949182a48c06bc5fb5e2f8fa57b092bc6bc5d27fae2a34f8d787b,
  0x524759f5399491cad78e452470292379491baa48dc5246da92365491b0a48d75246b29233549196a48ca6bc61b5e30949182a48c06bc5fb5e2f8fa57b094bc6bc5d27fae2a34f8d787b,
  0x524759f5399491cad78e452470292379491baa48dc5246da92365491b0a48d75246b29233549196a48ca6bc61b5e30949182a48c06bc5fb5e2f8fa57b098bc6bc5d27fae2a34f8d787b,
  0x524759f5399491cad78e452470292379491baa48dc5246da92365491b0a48d75246b29233549196a48ca6bc61b5e30949182a48c06bc5fb5e2f8fa57b09abc6bc5d27fae2a34f8d787b,
  0x524759f5399491cad78e452470292379491baa48dc5246da92365491b0a48d75246b29233549196a48ca6bc61b5e30949182a48c06bc5fb5e2f8fa57b09cbc6bc5d27fae2a34f8d787b,
  0xfca9c,
  0x12e3d0b6d0a56884,
  0x13b3d0ba10a56884,
  0x1303d0ba50a56884,
  0x979f04bc8c,
  0x97df24be8d,
  0x13b3d0bdd0a56884,
  0x1313d0c550a57e84,
  0x13cbd0c890a57e84,
  0x1333d0c8d0a57e84,
  0x991f04c88c,
  0x995f24ca8d,
  0x13cbd0cc50a57e84,
  0x9d9e856884,
  0x9e5e857e84,
  0x1491d67d4e652472a92381491bca48dd5246e29236d491b2a48d85246ba923594919ac6acb6356529230549180cdebd6345c418ad60c56906ab3,
  0x5c085,
  0x5dc85,
  0x5e08e,
  0x5f485,
  0x5f88e,
  0x60085,
  0x60685,
  0x60c85,
  0x63485,
  0x65085,
  0x6548e,
  0x66885,
  0x66c8e,
  0x67485,
  0x67a85,
  0x68085,
  0x2923acfa9cca48e552470292379491baa48dc5246da92365491b0a48d75246b29233597d96cbeca52460a923019a57acbcb8a0d5ad06ad234d67484b1,
  0x2923acfa9cca48e552470292379491baa48dc5246da92365491b0a48d75246b29233597d96cbeca52460a923019a57acbcb8a0d5ad06ad234d674ecb1,
  0x2923acfa9cca48e552470292379491baa48dc5246da92365491b0a48d75246b29233594d96ca6caa4563a9230549180ccebd6525c3392d59c9691acb3,
  0x2923acfa9cca48e552470292379491baa48dc5246da92365491b0a48d75246b29233594d96ca6caa5663a9230549180ccebd6525c3392d59c9691c8b3,
  0x1491d67d4e652472a92381491bca48dd5246e29236d491b2a48d85246ba923594919acbecb65f6529230549180cd2bd65e5c506ad683569424b3,
  0x2923acfa9cca48e552470292379491baa48dc5246da92365491b0a48d75246b29233594d96ca6caa6063a9230549180ccebd6525c3392d59c9691e6b3]

/-- Tables 448 to 511. -/
def gotos07 : List Nat := [
  0x2923acfa9cca48e552470292379491baa48dc5246da92365491b0a48d75246b29233594d96ca6caa6a63a9230549180ccebd6525c3392d59c969208b3,
  0x1491d67d4e652472a92381491bca48dd5246e29236d491b2a48d85246ba923594919aca6cb6536529230549180ccebd6525c3392d59c968cecb3,
  0x1491d67d4e652472a92381491bca48dd5246e29236d491b2a48d85246ba923594919acc8cb6646529230549180cdcbd6635c50d2d68696943cb3,
  0x2923acfa9cca48e552470292379491baa48dc5246da92365491b0a48d75246b29233594d96ca6caaef63a9230549180ccebd6525c3392d59c969394b3,
  0x2923acfa9cca48e552470292379491baa48dc5246da92365491b0a48d75246b29233594d96ca6caaf363a9230549180ccebd6525c3392d59c969396b3,
  0x2923acfa9cca48e552470292379491baa48dc5246da92365491b0a48d75246b29233594d96ca6caaf763a9230549180ccebd6525c3392d59c9693a0b3,
  0x2923acfa9cca48e552470292379491baa48dc5246da92365491b0a48d75246b29233594d96ca6caaf863a9230549180ccebd6525c3392d59c9693a2b3,
  0x2923acfa9cca48e552470292379491baa48dc5246da92365491b0a48d75246b29233594d96ca6caafe63a9230549180ccebd6525c3392d59c9693a4b3,
  0x2923acfa9cca48e552470292379491baa48dc5246da92365491b0a48d75246b29233594d96ca6cab0163a9230549180ccebd6525c3392d59c9693a6b3,
  0x2923acfa9cca48e552470292379491baa48dc5246da92365491b0a48d75246b29233598996cc4ca52460a9230199d7a9feb8,
  0x2923acfa9cca48e552470292379491baa48dc5246da92365491b0a48d75246b29233592596c92ca52460a923019a57a9feb8,
  0x20a3acf1dcc828e54147020a379051ba828dc4146da0a365051b0828d74146b20a33505196828ca41460a0a300f3d7a85cb8,
  0x2813acf99cca04e550270281379409baa04dc5026da81365409b0a04d75026b28133540996a04ca50260a813010d97aac6b8,
  0x2923acfa9cca48e552470292379491baa48dc5246da92365491b0a48d75246b29233549196a48ca52460a923011357a9feb8,
  0x29e3acfb9cca78e553c7029e3794f1baa78dc53c6da9e3654f1b0a78d753c6b29e3354f196a78ca53c60a9e3011897aadeb8,
  0x251bacf61cc946e54a370251b7928dba946dc4a36da51b6528db0946d74a36b251b3528d96946ca4a360a51b00fd57a936b8,
  0x262bacf71cc98ae54c570262b79315ba98adc4c56da62b65315b098ad74c56b262b353159698aca4c560a62b010097a9d6b8,
  0x2ba3ad041ccae8e5574702ba3795d1baae8dc5746daba3655d1b0ae8d75746b2ba3355d196ae8ca57460aba3011c97aa80b8,
  0x2d83ad1e9ccb60e55b0702d83796c1bab60dc5b06dad83656c1b0b60d75b06b2d83356c196b60ca5b060ad83013cd7ab5ab8,
  0x2923acfa9cca48e552470292379491baa48dc5246da92365491b0a48d75246b2923349bd964deca52460a923019297a9feb8,
  0x20a3acf1dcc828e54147020a379051ba828dc4146da0a365051b0828d74146b20a33505196828ca41460a0a300f2d7a85cb8,
  0x2923acfa9cca48e552470292379491baa48dc5246da92365491b0a48d75246b29233549596a4aca52460a9230199d7a9feb8,
  0x2923acfa9cca48e552470292379491baa48dc5246da92365491b0a48d75246b29233593d96c9eca52460a9230199d7a9feb8,
  0x20a3acf1dcc828e54147020a379051ba828dc4146da0a365051b0828d74146b20a33505196828ca41460a0a300f357a85cb8,
  0x20a3acf1dcc828e54147020a379051ba828dc4146da0a365051b0828d74146b20a33505196828ca41460a0a300f397a85cb8,
  0x20a3acf1dcc828e54147020a379051ba828dc4146da0a365051b0828d74146b20a33505196828ca41460a0a300f417a85cb8,
  0x20a3acf1dcc828e54147020a379051ba828dc4146da0a365051b0828d74146b20a33505196828ca41460a0a300f457a85cb8,
  0x20a3acf1dcc828e54147020a379051ba828dc4146da0a365051b0828d74146b20a33505196828ca41460a0a300f497a85cb8,
  0x20a3acf1dcc828e54147020a379051ba828dc4146da0a365051b0828d74146b20a33505196828ca41460a0a300f4d7a85cb8,
  0x20a3acf1dcc828e54147020a379051ba828dc4146da0a365051b0828d74146b20a33505196828ca41460a0a300f517a85cb8,
  0x20a3acf1dcc828e54147020a379051ba828dc4146da0a365051b0828d74146b20a33505196828ca41460a0a300f557a85cb8,
  0x20a3acf1dcc828e54147020a379051ba828dc4146da0a365051b0828d74146b20a33505196828ca41460a0a300f597a85cb8,
  0x2813acf99cca04e550270281379409baa04dc5026da81365409b0a04d75026b28133540996a04ca50260a813010d17aac6b8,
  0x2813acf99cca04e550270281379409baa04dc5026da81365409b0a04d75026b28133540996a04ca50260a813010d57aac6b8,
  0x2813acf99cca04e550270281379409baa04dc5026da81365409b0a04d75026b28133540996a04ca50260a813010dd7aac6b8,
  0x2813acf99cca04e550270281379409baa04dc5026da81365409b0a04d75026b28133540996a04ca50260a813010e17aac6b8,
  0x2813acf99cca04e550270281379409baa04dc5026da81365409b0a04d75026b28133540996a04ca50260a813010e57aac6b8,
  0x2813acf99cca04e550270281379409baa04dc5026da81365409b0a04d75026b28133540996a04ca50260a813010e97aac6b8,
  0x2813acf99cca04e550270281379409baa04dc5026da81365409b0a04d75026b28133540996a04ca50260a813010ed7aac6b8,
  0x2813acf99cca04e550270281379409baa04dc5026da81365409b0a04d75026b28133540996a04ca50260a813010f17aac6b8,
  0x2813acf99cca04e550270281379409baa04dc5026da81365409b0a04d75026b28133540996a04ca50260a813010f57aac6b8,
  0x2923acfa9cca48e552470292379491baa48dc5246da92365491b0a48d75246b29233549196a48ca52460a9230112d7a9feb8,
  0x2923acfa9cca48e552470292379491baa48dc5246da92365491b0a48d75246b29233549196a48ca52460a923011317a9feb8,
  0x2923acfa9cca48e552470292379491baa48dc5246da92365491b0a48d75246b29233549196a48ca52460a923011397a9feb8,
  0x2923acfa9cca48e552470292379491baa48dc5246da92365491b0a48d75246b29233549196a48ca52460a9230113d7a9feb8,
  0x2923acfa9cca48e552470292379491baa48dc5246da92365491b0a48d75246b29233549196a48ca52460a923011417a9feb8,
  0x2923acfa9cca48e552470292379491baa48dc5246da92365491b0a48d75246b29233549196a48ca52460a923011457a9feb8,
  0x2923acfa9cca48e552470292379491baa48dc5246da92365491b0a48d75246b29233549196a48ca52460a923011497a9feb8,
  0x2923acfa9cca48e552470292379491baa48dc5246da92365491b0a48d75246b29233549196a48ca52460a923011517a9feb8,
  0x2923acfa9cca48e552470292379491baa48dc5246da92365491b0a48d75246b29233549196a48ca52460a923011557a9feb8,
  0x29e3acfb9cca78e553c7029e3794f1baa78dc53c6da9e3654f1b0a78d753c6b29e3354f196a78ca53c60a9e3011817aadeb8,
  0x29e3acfb9cca78e553c7029e3794f1baa78dc53c6da9e3654f1b0a78d753c6b29e3354f196a78ca53c60a9e3011857aadeb8,
  0x29e3acfb9cca78e553c7029e3794f1baa78dc53c6da9e3654f1b0a78d753c6b29e3354f196a78ca53c60a9e30118d7aadeb8,
  0x29e3acfb9cca78e553c7029e3794f1baa78dc53c6da9e3654f1b0a78d753c6b29e3354f196a78ca53c60a9e3011917aadeb8,
  0x29e3acfb9cca78e553c7029e3794f1baa78dc53c6da9e3654f1b0a78d753c6b29e3354f196a78ca53c60a9e3011957aadeb8,
  0x29e3acfb9cca78e553c7029e3794f1baa78dc53c6da9e3654f1b0a78d753c6b29e3354f196a78ca53c60a9e3011997aadeb8,
  0x29e3acfb9cca78e553c7029e3794f1baa78dc53c6da9e3654f1b0a78d753c6b29e3354f196a78ca53c60a9e30119d7aadeb8,
  0x29e3acfb9cca78e553c7029e3794f1baa78dc53c6da9e3654f1b0a78d753c6b29e3354f196a78ca53c60a9e3011a17aadeb8,
  0x29e3acfb9cca78e553c7029e3794f1baa78dc53c6da9e3654f1b0a78d753c6b29e3354f196a78ca53c60a9e3011a57aadeb8,
  0x251bacf61cc946e54a370251b7928dba946dc4a36da51b6528db0946d74a36b251b3528d96946ca4a360a51b00fcd7a936b8,
  0x251bacf61cc946e54a370251b7928dba946dc4a36da51b6528db0946d74a36b251b3528d96946ca4a360a51b00fd17a936b8,
  0x251bacf61cc946e54a370251b7928dba946dc4a36da51b6528db0946d74a36b251b3528d96946ca4a360a51b00fd97a936b8,
  0x251bacf61cc946e54a370251b7928dba946dc4a36da51b6528db0946d74a36b251b3528d96946ca4a360a51b00fdd7a936b8,
  0x251bacf61cc946e54a370251b7928dba946dc4a36da51b6528db0946d74a36b251b3528d96946ca4a360a51b00fe17a936b8]

end CallContext.Automaton
