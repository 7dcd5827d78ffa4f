import SelectGraph.Json.Value

/-!
# The page for trying queries

A page on which queries can be written and sent. It starts with the query of the request that asked
for it, and with the answer of the schema to that query.
-/

namespace SelectGraph.Service

def pageHead : List String :=
  [
    "",
    "",
    "<!DOCTYPE html>",
    "<html>",
    "<head>",
    "  <meta charset=\"utf-8\" />",
    "  <title>GraphiQL</title>",
    "  <meta name=\"robots\" content=\"noindex\" />",
    "  <meta name=\"referrer\" content=\"origin\">",
    "  <style>",
    "    body \x7b",
    "      height: 100%;",
    "      margin: 0;",
    "      overflow: hidden;",
    "      width: 100%;",
    "    \x7d",
    "    #graphiql \x7b",
    "      height: 100vh;",
    "    \x7d",
    "  </style>",
    "  <link href=\"//cdn.jsdelivr.net/npm/graphiql@0.11.11/graphiql.css\" rel=\"stylesheet\" />",
    "  <script src=\"//cdn.jsdelivr.net/es6-promise/4.0.5/es6-promise.auto.min.js\"></script>",
    "  <script src=\"//cdn.jsdelivr.net/fetch/0.9.0/fetch.min.js\"></script>",
    "  <script src=\"//cdn.jsdelivr.net/react/15.4.2/react.min.js\"></script>",
    "  <script src=\"//cdn.jsdelivr.net/react/15.4.2/react-dom.min.js\"></script>",
    "  <script src=\"//cdn.jsdelivr.net/npm/graphiql@0.11.11/graphiql.min.js\"></script>",
    "</head>",
    "<body>",
    "  <div id=\"graphiql\">Loading...</div>",
    "  <script>",
    "    ",
    "    var parameters = \x7b\x7d;",
    "    window.location.search.substr(1).split('&').forEach(function (entry) \x7b",
    "      var eq = entry.indexOf('=');",
    "      if (eq >= 0) \x7b",
    "        parameters[decodeURIComponent(entry.slice(0, eq))] =",
    "          decodeURIComponent(entry.slice(eq + 1));",
    "      \x7d",
    "    \x7d);",
    "",
    "    ",
    "    function locationQuery(params) \x7b",
    "      return '?' + Object.keys(params).filter(function (key) \x7b",
    "        return Boolean(params[key]);",
    "      \x7d).map(function (key) \x7b",
    "        return encodeURIComponent(key) + '=' +",
    "          encodeURIComponent(params[key]);",
    "      \x7d).join('&');",
    "    \x7d",
    "",
    "    ",
    "    var graphqlParamNames = \x7b",
    "      query: true,",
    "      variables: true,",
    "      operationName: true",
    "    \x7d;",
    "",
    "    var otherParams = \x7b\x7d;",
    "    for (var k in parameters) \x7b",
    "      if (parameters.hasOwnProperty(k) && graphqlParamNames[k] !== true) \x7b",
    "        otherParams[k] = parameters[k];",
    "      \x7d",
    "    \x7d",
    "    var fetchURL = locationQuery(otherParams);",
    "",
    "    ",
    "    function graphQLFetcher(graphQLParams) \x7b",
    "      return fetch(fetchURL, \x7b",
    "        method: 'post',",
    "        headers: \x7b",
    "          'Accept': 'application/json',",
    "          'Content-Type': 'application/json'",
    "        \x7d,",
    "        body: JSON.stringify(graphQLParams),",
    "        credentials: 'include',",
    "      \x7d).then(function (response) \x7b",
    "        return response.text();",
    "      \x7d).then(function (responseBody) \x7b",
    "        try \x7b",
    "          return JSON.parse(responseBody);",
    "        \x7d catch (error) \x7b",
    "          return responseBody;",
    "        \x7d",
    "      \x7d);",
    "    \x7d",
    "",
    "    ",
    "    ",
    "    function onEditQuery(newQuery) \x7b",
    "      parameters.query = newQuery;",
    "      updateURL();",
    "    \x7d",
    "",
    "    function onEditVariables(newVariables) \x7b",
    "      parameters.variables = newVariables;",
    "      updateURL();",
    "    \x7d",
    "",
    "    function onEditOperationName(newOperationName) \x7b",
    "      parameters.operationName = newOperationName;",
    "      updateURL();",
    "    \x7d",
    "",
    "    function updateURL() \x7b",
    "      history.replaceState(null, null, locationQuery(parameters));",
    "    \x7d",
    "",
    "    ",
    "    ReactDOM.render(",
    "      React.createElement(GraphiQL, \x7b",
    "        fetcher: graphQLFetcher,",
    "        onEditQuery: onEditQuery,",
    "        onEditVariables: onEditVariables,",
    "        onEditOperationName: onEditOperationName,",
    "        "]

def pageTail : List String :=
  [
    "      \x7d),",
    "      document.getElementById('graphiql')",
    "    );",
    "  </script>",
    "</body>",
    "</html>",
    ""]

structure PageParameters where
  query : String
  response : String
  variablesText : String
  operationName : String

def PageParameters.page (parameters : PageParameters) : String :=
  let line (name value : String) : String := name ++ ": " ++ Json.quote value ++ ",\n"
  Text.join "\n" pageHead ++ line "query" parameters.query ++
    "        " ++ line "response" parameters.response ++
    "        " ++ line "variables" parameters.variablesText ++
    "        " ++ line "operationName" parameters.operationName ++
    Text.join "\n" pageTail

end SelectGraph.Service
